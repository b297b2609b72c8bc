import Eki.Fleet.KnownLocations

/-!
# Last known locations do not roll back

A fix that a session's copy admits is no older than it, so no order of events
takes the session's copy back.  The bus's copy is written with the same fix
without being read: it goes back exactly where the session's copy admits a fix
that the bus's own would refuse.  Times and positions are compared only, as
the rationals that the doubles are.
-/

namespace Eki.Fleet

open Transition
open Function (update update_of_ne update_self)

/-- The fix is older: of an earlier time, or of the same time with a lower
number where both are known. -/
def KnownLocation.Older (location prior : KnownLocation ℚ) : Prop :=
  location.sampledAt < prior.sampledAt ∨
    location.sampledAt = prior.sampledAt ∧
      ∃ seq priorSeq, location.seq = some seq ∧ prior.seq = some priorSeq ∧
        seq < priorSeq

/-- A copy does not go back. -/
def Forward (before after : Option (KnownLocation ℚ)) : Prop :=
  ∀ prior location, before = some prior → after = some location →
    ¬ location.Older prior

/-- The fix of a copy is of no earlier time than before. -/
def NotEarlier (before after : Option (KnownLocation ℚ)) : Prop :=
  ∀ prior, before = some prior →
    ∃ location, after = some location ∧ prior.sampledAt ≤ location.sampledAt

theorem KnownLocation.not_older_self (location : KnownLocation ℚ) :
    ¬ location.Older location := by
  rintro (earlier | ⟨-, seq, priorSeq, known, same, lower⟩)
  · exact lt_irrefl _ earlier
  · rw [known] at same
    cases same
    exact lt_irrefl _ lower

theorem Forward.refl (copy : Option (KnownLocation ℚ)) : Forward copy copy := by
  intro prior location before after
  rw [before] at after
  cases after
  exact prior.not_older_self

theorem NotEarlier.refl (copy : Option (KnownLocation ℚ)) :
    NotEarlier copy copy := by
  intro prior before
  exact ⟨prior, before, le_refl _⟩

theorem NotEarlier.trans {first second third : Option (KnownLocation ℚ)}
    (front : NotEarlier first second) (back : NotEarlier second third) :
    NotEarlier first third := by
  intro prior before
  obtain ⟨middle, between, earlier⟩ := front prior before
  obtain ⟨location, after, later⟩ := back middle between
  exact ⟨location, after, earlier.trans later⟩

theorem Forward.notEarlier {before after : Option (KnownLocation ℚ)}
    (forward : Forward before after)
    (stays : before.isSome = true → after.isSome = true) :
    NotEarlier before after := by
  intro prior present
  obtain ⟨location, kept⟩ := Option.isSome_iff_exists.mp
    (stays (by rw [present]; rfl))
  refine ⟨location, kept, ?_⟩
  apply le_of_not_gt
  intro earlier
  exact forward prior location present kept (.inl earlier)

section Newer

variable {data : JsRecord ℚ} {existing : Option (KnownLocation ℚ)}
  {location : KnownLocation ℚ}

theorem sampledAt_of_journeyLocation
    (read : journeyLocation data = some location) :
    ¬ location.sampledAt < (JsNumber.ofNat 0 : ℚ) := by
  unfold journeyLocation at read
  simp only at read
  split at read
  · rename_i sampled
    cases read
    unfold sampleTime at sampled
    split at sampled
    · split at sampled
      · rename_i value admitted
        cases sampled
        simp only [Bool.and_eq_true, Bool.not_eq_true', decide_eq_false_iff_not]
          at admitted
        intro earlier
        exact admitted.2 (le_of_lt earlier)
      · cases sampled
    · cases sampled
  · cases read

theorem lowerSeq_iff {prior : KnownLocation ℚ} :
    location.lowerSeq prior = true ↔
      ∃ seq priorSeq, location.seq = some seq ∧ prior.seq = some priorSeq ∧
        seq < priorSeq := by
  unfold KnownLocation.lowerSeq
  simp only [Option.any_eq_true, decide_eq_true_eq]
  constructor
  · rintro ⟨seq, known, priorSeq, stored, lower⟩
    exact ⟨seq, priorSeq, known, stored, lower⟩
  · rintro ⟨seq, priorSeq, known, stored, lower⟩
    exact ⟨seq, known, priorSeq, stored, lower⟩

/-- A fix is admitted over a copy if and only if it is not older. -/
theorem newerJourneyLocation_iff :
    newerJourneyLocation data existing = some location ↔
      journeyLocation data = some location ∧
        ∀ prior, existing = some prior → ¬ location.Older prior := by
  unfold newerJourneyLocation
  rw [Option.filter_eq_some_iff]
  apply and_congr_right
  intro read
  cases existing with
  | none =>
    have after := sampledAt_of_journeyLocation read
    simp only [Option.map_none, Option.getD_none, Option.any_none,
      Bool.not_false, Bool.and_true, Bool.not_eq_true',
      decide_eq_false_iff_not, reduceCtorEq, false_implies, implies_true,
      iff_true]
    exact after
  | some prior =>
    simp only [Option.map_some, Option.getD_some, Option.any_some,
      Bool.and_eq_true, Bool.not_eq_true', decide_eq_false_iff_not,
      Bool.and_eq_false_iff, Option.some.injEq, forall_eq']
    unfold KnownLocation.Older
    rw [← lowerSeq_iff, not_or, not_and]
    apply and_congr_right
    intro notEarlier
    rw [← Bool.not_eq_true, ← Bool.not_eq_true, beq_iff_eq, imp_iff_not_or]

end Newer

namespace LocationStore

variable {store : LocationStore ℚ} {data : JsRecord ℚ} {busId : String}
  {sessionId : Option String}

def admitted (store : LocationStore ℚ) (data : JsRecord ℚ)
    (target : Option (String × Option String)) : Bool :=
  target.all fun (busId, sessionId) =>
    (newerJourneyLocation data (sessionId.bind store.sessionCopy)).isNone ||
      (newerJourneyLocation data (store.busLocations busId)).isSome

/-- The fix that a step keeps for a bus is admitted by the bus's copy. -/
def admits (store : LocationStore ℚ) : LocationLabel ℚ → Bool
  | .fleet data => store.admitted data (store.fleetTarget data)
  | .offline data => store.admitted data (store.offlineTarget data)
  | _ => true

/-- A step takes no session's copy back and no copy away. -/
structure KeepsCopies (before after : LocationStore ℚ) : Prop where
  sessions : ∀ id,
    Forward (before.sessionLocations id) (after.sessionLocations id)
  sessionStays : ∀ id, (before.sessionLocations id).isSome = true →
    (after.sessionLocations id).isSome = true
  busStays : ∀ bus, (before.busLocations bus).isSome = true →
    (after.busLocations bus).isSome = true

theorem KeepsCopies.same {before after : LocationStore ℚ}
    (sessions : after.sessionLocations = before.sessionLocations)
    (buses : after.busLocations = before.busLocations) :
    KeepsCopies before after := by
  constructor
  · intro id
    rw [sessions]
    exact Forward.refl _
  · intro id present
    rwa [sessions]
  · intro bus present
    rwa [buses]

variable {id : String} {location : KnownLocation ℚ}
  {copies : String → Option (KnownLocation ℚ)}

theorem forward_update
    (admits : ∀ prior, copies id = some prior → ¬ location.Older prior)
    (other : String) :
    Forward (copies other)
      (update copies id (some location) other) := by
  by_cases same : other = id
  · subst same
    rw [update_self]
    rintro prior written before ⟨⟩
    exact admits prior before
  · rw [update_of_ne same]
    exact Forward.refl _

theorem isSome_update (other : String)
    (present : (copies other).isSome = true) :
    (update copies id (some location) other).isSome = true := by
  by_cases same : other = id
  · rw [same, update_self]
    rfl
  · rwa [update_of_ne same]

theorem sessionCopy_of_stored (stored : (store.sessions id).isSome = true) :
    store.sessionCopy id = store.sessionLocations id := by
  obtain ⟨session, present⟩ := Option.isSome_iff_exists.mp stored
  rw [sessionCopy, present, Option.bind_some]

theorem keepsCopies_record :
    KeepsCopies store (store.record data busId sessionId) := by
  unfold record
  split
  · exact .same rfl rfl
  · rename_i location newer
    obtain ⟨-, admits⟩ := newerJourneyLocation_iff.mp newer
    have keepsBuses : ∀ bus, (store.busLocations bus).isSome = true →
        (update store.busLocations busId (some location)
          bus).isSome = true := fun bus present => isSome_update bus present
    cases target : sessionId.filter fun id => (store.sessions id).isSome with
    | none =>
      exact ⟨fun other => Forward.refl _, fun other present => present,
        keepsBuses⟩
    | some id =>
      obtain ⟨named, stored⟩ := Option.filter_eq_some_iff.mp target
      rw [named, Option.bind_some, sessionCopy_of_stored stored] at admits
      exact ⟨forward_update admits, fun other => isSome_update other,
        keepsBuses⟩

/-- A kept fix takes the bus's copy back where only the session's copy admits
it. -/
theorem forward_record_iff :
    (∀ bus, Forward (store.busLocations bus)
        ((store.record data busId sessionId).busLocations bus)) ↔
      store.admitted data (some (busId, sessionId)) = true := by
  unfold record admitted
  simp only [Option.all_some]
  split
  · rename_i refused
    simp only [refused, Option.isNone_none, Bool.true_or, iff_true]
    intro bus
    exact Forward.refl _
  · rename_i location newer
    obtain ⟨read, -⟩ := newerJourneyLocation_iff.mp newer
    rw [newer, Option.isNone_some, Bool.false_or, Option.isSome_iff_exists]
    constructor
    · intro forward
      have written := forward busId
      simp only [update_self] at written
      refine ⟨location, newerJourneyLocation_iff.mpr ⟨read, ?_⟩⟩
      intro prior before
      exact written prior location before rfl
    · rintro ⟨found, newest⟩ bus
      obtain ⟨again, admits⟩ := newerJourneyLocation_iff.mp newest
      rw [read] at again
      cases again
      exact forward_update admits bus

theorem keepsCopies_endRide {bus : String} {status : SessionStatus}
    {fix : Option (JsRecord ℚ)} (stored : (store.sessions id).isSome = true) :
    KeepsCopies store (store.endRide id bus status fix) := by
  unfold endRide
  cases newer : fix.bind fun fix =>
      newerJourneyLocation fix (store.sessionCopy id) with
  | none => exact .same rfl rfl
  | some location =>
    obtain ⟨found, -, admitted⟩ := Option.bind_eq_some_iff.mp newer
    obtain ⟨-, admits⟩ := newerJourneyLocation_iff.mp admitted
    rw [sessionCopy_of_stored stored] at admits
    exact ⟨forward_update admits, fun other => isSome_update other,
      fun other present => present⟩

theorem stored_of_any {holds : RideSession → Bool}
    (checked : (store.sessions id).any holds = true) :
    (store.sessions id).isSome = true := by
  obtain ⟨session, present, -⟩ := (Option.any_eq_true _ _).mp checked
  rw [present]
  rfl

variable {label : LocationLabel ℚ} {next : LocationStore ℚ}

theorem keepsCopies_step (taken : step store label = some next) :
    KeepsCopies store next := by
  cases label with
  | fleet data =>
    cases taken
    unfold persistFleetState
    split
    · exact .same rfl rfl
    · exact keepsCopies_record
  | offline data =>
    cases taken
    unfold persistOfflineFleetState
    split
    · exact .same rfl rfl
    · exact keepsCopies_record
  | complete data =>
    cases taken
    unfold completeRide
    split
    · split
      · rename_i admitted
        exact keepsCopies_endRide
          (stored_of_any (Bool.and_eq_true_iff.mp admitted).1)
      · exact .same rfl rfl
    · exact .same rfl rfl
  | stop request liveAtEnd =>
    cases taken
    unfold stopRide
    split
    · rename_i admitted
      exact keepsCopies_endRide (stored_of_any admitted)
    · exact .same rfl rfl
  | other sessions locks =>
    cases taken
    exact .same rfl rfl

theorem forward_step_iff (taken : step store label = some next) :
    (∀ bus, Forward (store.busLocations bus) (next.busLocations bus)) ↔
      store.admits label = true := by
  have unchanged : next.busLocations = store.busLocations →
      ((∀ bus, Forward (store.busLocations bus) (next.busLocations bus)) ↔
        true = true) := by
    intro same
    simp only [iff_true]
    intro bus
    rw [same]
    exact Forward.refl _
  cases label with
  | fleet data =>
    cases taken
    unfold persistFleetState admits
    simp only
    cases target : store.fleetTarget data with
    | none => exact ⟨fun _ => rfl, fun _ bus => Forward.refl _⟩
    | some pair => exact forward_record_iff
  | offline data =>
    cases taken
    unfold persistOfflineFleetState admits
    simp only
    cases target : store.offlineTarget data with
    | none => exact ⟨fun _ => rfl, fun _ bus => Forward.refl _⟩
    | some pair => exact forward_record_iff
  | complete data =>
    cases taken
    apply unchanged
    unfold completeRide
    split
    · split <;> rfl
    · rfl
  | stop request liveAtEnd =>
    cases taken
    apply unchanged
    unfold stopRide
    split <;> rfl
  | other sessions locks =>
    cases taken
    exact unchanged rfl

variable {first last : LocationStore ℚ}

theorem notEarlier_session
    (steps : System.Steps step (fun _ _ => True) first last) (id : String) :
    NotEarlier (first.sessionLocations id) (last.sessionLocations id) := by
  induction steps with
  | refl => exact NotEarlier.refl _
  | step before allowed taken induction =>
    have keeps := keepsCopies_step taken
    exact induction.trans
      ((keeps.sessions id).notEarlier (keeps.sessionStays id))

theorem notEarlier_bus (steps : System.Steps step
      (fun store label => store.admits label = true) first last)
    (bus : String) :
    NotEarlier (first.busLocations bus) (last.busLocations bus) := by
  induction steps with
  | refl => exact NotEarlier.refl _
  | step before admitted taken induction =>
    have keeps := keepsCopies_step taken
    have forward := (forward_step_iff taken).mpr admitted
    exact induction.trans ((forward bus).notEarlier (keeps.busStays bus))

/-- No step of any run takes a copy back. -/
def MovesForward : Prop :=
  ∀ (store : LocationStore ℚ) (label : LocationLabel ℚ)
    (next : LocationStore ℚ),
    System.Steps step (fun _ _ => True) .empty store →
    step store label = some next →
    (∀ id, Forward (store.sessionLocations id) (next.sessionLocations id)) ∧
      ∀ bus, Forward (store.busLocations bus) (next.busLocations bus)

end LocationStore

/-- **Last known locations do not roll back**: a session's copy never, a bus's
one exactly in the runs where it admits every fix that is kept for the bus. -/
theorem last_known_locations_move_forward (first : LocationStore ℚ) :
    (∀ last, System.Steps LocationStore.step (fun _ _ => True) first last →
      ∀ id, NotEarlier (first.sessionLocations id)
        (last.sessionLocations id)) ∧
    (∀ last, System.Steps LocationStore.step
        (fun store label => store.admits label = true) first last →
      ∀ bus, NotEarlier (first.busLocations bus) (last.busLocations bus)) ∧
    ∀ (label : LocationLabel ℚ) (next : LocationStore ℚ),
      LocationStore.step first label = some next →
      (∀ id, Forward (first.sessionLocations id)
        (next.sessionLocations id)) ∧
        ((∀ bus, Forward (first.busLocations bus) (next.busLocations bus)) ↔
          first.admits label = true) := by
  refine ⟨?_, ?_, ?_⟩
  · intro last steps id
    exact LocationStore.notEarlier_session steps id
  · intro last steps bus
    exact LocationStore.notEarlier_bus steps bus
  · intro label next taken
    exact ⟨(LocationStore.keepsCopies_step taken).sessions,
      LocationStore.forward_step_iff taken⟩

/-- The node of a session's ride with its last fix. -/
def sampledNode (sessionId deviceState : String) (timestamp : ℚ) :
    JsRecord ℚ :=
  [("busId", .string "b"), ("routeId", .string "r"),
    ("sessionId", .string sessionId), ("deviceState", .string deviceState),
    ("lat", .number 0), ("lng", .number 0), ("timestamp", .number timestamp),
    ("seq", .number 1)]

def rideOf (status : SessionStatus) : RideSession :=
  { driverId := "d"
    busId := "b"
    routeId := "r"
    status
    direction := some .forward }

def lockedBy (sessionId : String) : BusLock :=
  .ride
    { driverId := "d"
      busId := "b"
      routeId := "r"
      sessionId
      direction := some .forward }

def stopOf (sessionId : String) : LocationStop :=
  { driverId := some "d"
    busId := "b"
    routeId := "r"
    sessionId }

def ridden : List (LocationLabel ℚ) :=
  [.other (update (fun _ => none) "s1" (some (rideOf .active)))
      (update (fun _ => none) "b" (some (lockedBy "s1"))),
    .fleet (sampledNode "s1" "offline" 50)]

/-- The signal is lost again later; a fix that is late is passed over. -/
theorem last_known_locations_move_forward_of_late_fix :
    ∃ first last,
      System.Steps LocationStore.step
        (fun store label => store.admits label = true) first last ∧
      (first.busLocations "b").map KnownLocation.sampledAt = some 50 ∧
      (last.busLocations "b").map KnownLocation.sampledAt = some 100 ∧
      NotEarlier (first.sessionLocations "s1") (last.sessionLocations "s1") ∧
      NotEarlier (first.busLocations "b") (last.busLocations "b") := by
  have decided :
      (System.run LocationStore.step (fun _ _ => true) .empty ridden).any
        (fun first =>
          decide ((first.busLocations "b").map KnownLocation.sampledAt =
            some 50) &&
          (System.run LocationStore.step LocationStore.admits first
            [.fleet (sampledNode "s1" "offline" 100),
              .offline (sampledNode "s1" "online" 70),
              .stop (stopOf "s1") (some (sampledNode "s1" "online" 90))]).any
            fun last =>
              decide ((last.busLocations "b").map KnownLocation.sampledAt =
                some 100)) = true := by
    decide +kernel
  obtain ⟨first, -, holds⟩ := System.exists_of_run decided
  obtain ⟨before, decided⟩ := (Bool.and_eq_true _ _).mp holds
  obtain ⟨last, steps, after⟩ := System.exists_of_run decided
  obtain ⟨sessions, buses, -⟩ := last_known_locations_move_forward first
  exact ⟨first, last, steps, of_decide_eq_true before, of_decide_eq_true after,
    sessions last (steps.mono fun _ _ _ => trivial) "s1",
    buses last steps "b"⟩

/-- Two rides of a bus; the second one loses its signal before it is stopped. -/
def twoRides : List (LocationLabel ℚ) :=
  [.other (update (fun _ => none) "s1" (some (rideOf .active)))
      (update (fun _ => none) "b" (some (lockedBy "s1"))),
    .stop (stopOf "s1") (some (sampledNode "s1" "online" 50)),
    .other
      (update
        (update (fun _ => none) "s1" (some (rideOf .interrupted)))
        "s2" (some (rideOf .active)))
      (update (fun _ => none) "b" (some (lockedBy "s2"))),
    .fleet (sampledNode "s2" "offline" 100), .stop (stopOf "s2") none]

/-- The removal of the first ride's node comes after the second ride. -/
theorem bus_location_rolls_back : ¬ LocationStore.MovesForward := by
  intro forward
  have decided :
      (System.run LocationStore.step (fun _ _ => true) .empty twoRides).any
        (fun store =>
          decide ((store.busLocations "b").map KnownLocation.sampledAt =
              some 100 ∧
            ((store.persistOfflineFleetState
              (sampledNode "s1" "online" 50)).busLocations "b").map
                KnownLocation.sampledAt = some 50)) = true := by
    decide +kernel
  obtain ⟨store, steps, shows⟩ := System.exists_of_run decided
  obtain ⟨before, after⟩ := of_decide_eq_true shows
  obtain ⟨prior, stored, earlier⟩ := Option.map_eq_some_iff.mp before
  obtain ⟨location, written, later⟩ := Option.map_eq_some_iff.mp after
  have moves := (forward store (.offline (sampledNode "s1" "online" 50)) _
    (steps.mono fun _ _ _ => trivial) rfl).2 "b"
  apply moves prior location stored written
  left
  rw [later, earlier]
  decide

end Eki.Fleet
