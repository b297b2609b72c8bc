import Eki.Live.LiveTransactions

/-!
# Transactions on a cold cache

Most callbacks answer an absent node with an absent node and so reach the
server's value.  Two decline it, which ends the transaction: a cold cache loses
what they would have written.
-/

namespace Eki.Live

open ColdCache

variable {R : Type} [JsNumber R]

def SameNode (value other : JsValue R) : Prop :=
  value = other ∨ ∃ fields others : JsRecord R, value = .object fields ∧
    other = .object others ∧ ∀ field, fields.get field = others.get field

omit [JsNumber R] in
theorem SameNode.refl (value : JsValue R) : SameNode value value :=
  .inl rfl

inductive LiveUpdate (R : Type) [JsNumber R] where
  | delay (request : DelayUpdate R)
  | manualStop (sessionId : String)
  | retirement (deviceId : String) (revision : R)
  | blocked (assignment : BlockedAssignment R) (state : String)
  | abandoned (fence : Option (Fence R)) (sessionId : String) (cutoff : R)
  | stale (fence : Option (Fence R)) (stopped : Bool) (data : JsRecord R)
  | reroute (claim : RerouteClaim R)

namespace LiveUpdate

def callback (convert : JsValue R → R) :
    LiveUpdate R → Callback (JsValue R)
  | .delay request => updateDelay request
  | .manualStop sessionId => retireStopped sessionId
  | .retirement deviceId revision =>
    retiredDevicePresence convert deviceId revision
  | .blocked assignment state => publishBlocked convert assignment state
  | .abandoned fence sessionId cutoff =>
    workerRtdbTransaction convert fence (retireAbandoned sessionId cutoff)
  | .stale fence stopped data =>
    workerRtdbTransaction convert fence (sweepStale stopped data)
  | .reroute claim => claimReroute claim

/-- The node after a transaction whose cache is cold. -/
def coldEffect (convert : JsValue R → R) (update : LiveUpdate R)
    (server : JsValue R) : JsValue R :=
  cold .null isNull (update.callback convert) server

/-- The node after the callback was applied to it. -/
def effect (convert : JsValue R → R) (update : LiveUpdate R)
    (server : JsValue R) : JsValue R :=
  once (update.callback convert) server

/-- A node that has the tombstone already. -/
def HasTombstone (deviceId : String) (revision : R) (server : JsValue R) :
    Prop :=
  ∃ fields : JsRecord R, server = .object fields ∧
    fields.get "deviceId" = .string deviceId ∧
    fields.get "retiredAssignmentRevision" = .number revision ∧
    fields.get "deviceState" = .string "offline"

/-- When a cold cache is harmless. -/
def ColdSafe (convert : JsValue R → R) :
    LiveUpdate R → JsValue R → Prop
  | .retirement deviceId revision, server =>
    retirementRefused convert deviceId revision server = true ∨
      HasTombstone deviceId revision server
  | .blocked assignment state, server =>
    blockedRefused convert assignment state server = true
  | _, _ => True

variable {convert : JsValue R → R} {server : JsValue R}

omit [JsNumber R] in
theorem isNull_exact (blank : isNull server = true) : server = .null := by
  cases server with
  | null => rfl
  | _ => cases blank

/-! ## Callbacks that answer an absent node -/

/-- A callback that answers an absent node with an absent node answers it under
a leadership too, unless the leadership is lost. -/
theorem workerRtdbTransaction_null (convert : JsValue R → R)
    (fence : Option (Fence R))
    (update : JsValue R → Option (JsValue R)) :
    (∀ current, workerRtdbTransaction convert fence update current = none) ∨
      workerRtdbTransaction convert fence update .null =
        (update .null).map fun next =>
          match fence with
          | none => next
          | some fence =>
            if next.truthy && isObject next then
              .object ((ownFields next).spread [
                ("_workerGeneration", .number fence.generation)])
            else next := by
  cases fence with
  | none =>
    right
    show update .null = (update .null).map fun next => next
    rw [Option.map_id']
  | some fence =>
    cases held : fence.held with
    | false =>
      left
      intro current
      show (if !fence.held then none else _) = none
      rw [held]
      rfl
    | true =>
      right
      unfold workerRtdbTransaction
      simp only [held]
      rw [if_neg (by decide)]
      exact if_neg fence.generation_nonneg

theorem same_of_answers (update : LiveUpdate R)
    (answers : update.callback convert .null ≠ none) :
    SameNode (update.coldEffect convert server)
      (update.effect convert server) := by
  unfold coldEffect effect
  rw [cold_of_answers isNull_exact answers]
  exact SameNode.refl _

theorem same_of_declines (update : LiveUpdate R)
    (empty : update.callback convert .null = none)
    (declines : update.callback convert server = none) :
    SameNode (update.coldEffect convert server)
      (update.effect convert server) := by
  unfold coldEffect effect
  rw [cold_of_declines empty, once_of_declines declines]
  exact SameNode.refl _

/-- Under a leadership, a callback that declines either every node or not the
absent one is safe. -/
theorem same_of_worker (update : LiveUpdate R) (fence : Option (Fence R))
    (inner : JsValue R → Option (JsValue R))
    (wrapped : update.callback convert =
      workerRtdbTransaction convert fence inner)
    (answers : (∀ current, inner current = none) ∨ inner .null ≠ none) :
    SameNode (update.coldEffect convert server)
      (update.effect convert server) := by
  have refused : (∀ current, inner current = none) →
      ∀ current, workerRtdbTransaction convert fence inner current = none := by
    intro silent current
    unfold workerRtdbTransaction
    split
    · exact silent current
    · split
      · rfl
      · split
        · rfl
        · rw [silent current]
          rfl
  rcases workerRtdbTransaction_null convert fence inner with
    lost | kept
  · apply same_of_declines
    · rw [wrapped]
      exact lost .null
    · rw [wrapped]
      exact lost server
  · rcases answers with silent | some
    · apply same_of_declines
      · rw [wrapped]
        exact refused silent .null
      · rw [wrapped]
        exact refused silent server
    · apply same_of_answers
      rw [wrapped, kept]
      cases proposed : inner .null with
      | none => exact absurd proposed some
      | some value => exact Option.some_ne_none _

/-! ## Callbacks that decline an absent node -/

omit [JsNumber R] in
theorem sameNode_spread {fields patch : JsRecord R}
    (present : ∀ field, (patch.lookup field).isSome = true →
      patch.get field = fields.get field) :
    SameNode (.object fields) (.object (fields.spread patch)) := by
  refine .inr ⟨fields, _, rfl, rfl, ?_⟩
  intro field
  rw [JsRecord.get_spread]
  split
  · rename_i patched
    exact (present field patched).symm
  · rfl

omit [JsNumber R] in
theorem get_of_sameNode {record patch : JsRecord R} {field : String}
    (same : SameNode server (.object (record.spread patch)))
    (patched : (patch.lookup field).isSome = true) :
    ∃ fields : JsRecord R, server = .object fields ∧
      fields.get field = patch.get field := by
  have shown : (record.spread patch).get field = patch.get field := by
    rw [JsRecord.get_spread, if_pos patched]
  rcases same with rfl | ⟨fields, others, rfl, own, agree⟩
  · exact ⟨_, rfl, shown⟩
  · cases own
    exact ⟨fields, rfl, (agree field).trans shown⟩

theorem same_retirement_iff (deviceId : String) (revision : R) :
    SameNode ((retirement deviceId revision).coldEffect convert server)
        ((retirement deviceId revision).effect convert server) ↔
      (retirement deviceId revision).ColdSafe convert server := by
  have empty : (retirement deviceId revision).callback convert .null =
      none := rfl
  show SameNode (cold _ _ _ server) (once _ server) ↔
    retirementRefused convert deviceId revision server = true ∨ _
  rw [cold_of_declines empty]
  cases refused : retirementRefused convert deviceId revision server with
  | true =>
    have declines : (retirement deviceId revision).callback convert server =
        none := by
      show retiredDevicePresence convert deviceId revision server = none
      unfold retiredDevicePresence
      rw [if_pos refused]
    rw [once_of_declines declines]
    exact ⟨fun _ => .inl rfl, fun _ => SameNode.refl server⟩
  | false =>
    have written : once ((retirement deviceId revision).callback convert)
        server = .object ((ownFields server).spread [
          ("deviceId", .string deviceId),
          ("retiredAssignmentRevision", .number revision),
          ("deviceState", .string "offline")]) := by
      show ((retiredDevicePresence convert deviceId revision
        server).getD server) = _
      unfold retiredDevicePresence
      rw [refused]
      rfl
    rw [written]
    constructor
    · intro same
      right
      obtain ⟨fields, rfl, device⟩ := get_of_sameNode same
        (show (List.lookup "deviceId" _).isSome = true from rfl)
      refine ⟨fields, rfl, device, ?_, ?_⟩
      · obtain ⟨others, own, revised⟩ := get_of_sameNode same
          (show (List.lookup "retiredAssignmentRevision" _).isSome = true
            from rfl)
        cases own
        exact revised
      · obtain ⟨others, own, offline⟩ := get_of_sameNode same
          (show (List.lookup "deviceState" _).isSome = true from rfl)
        cases own
        exact offline
    · rintro (impossible | ⟨fields, rfl, device, revised, offline⟩)
      · cases impossible
      · apply sameNode_spread
        intro field patched
        by_cases first : field = "deviceId"
        · subst first
          exact device.symm
        · by_cases second : field = "retiredAssignmentRevision"
          · subst second
            exact revised.symm
          · by_cases third : field = "deviceState"
            · subst third
              exact offline.symm
            · rw [List.lookup_cons, beq_false_of_ne first,
                List.lookup_cons, beq_false_of_ne second,
                List.lookup_cons, beq_false_of_ne third] at patched
              cases patched

theorem same_blocked_iff (assignment : BlockedAssignment R) (state : String) :
    SameNode ((blocked assignment state).coldEffect convert server)
        ((blocked assignment state).effect convert server) ↔
      (blocked assignment state).ColdSafe convert server := by
  have empty : (blocked assignment state).callback convert .null = none := rfl
  show SameNode (cold _ _ _ server) (once _ server) ↔
    blockedRefused convert assignment state server = true
  rw [cold_of_declines empty]
  cases refused : blockedRefused convert assignment state server with
  | true =>
    have declines : (blocked assignment state).callback convert server =
        none := by
      show publishBlocked convert assignment state server = none
      unfold publishBlocked
      rw [if_pos refused]
    rw [once_of_declines declines]
    exact ⟨fun _ => rfl, fun _ => SameNode.refl server⟩
  | false =>
    have written : once ((blocked assignment state).callback convert)
        server = .object ((ownFields server).spread [
          ("automaticServiceState", .string state)]) := by
      show ((publishBlocked convert assignment state server).getD server) = _
      unfold publishBlocked
      rw [refused]
      rfl
    rw [written]
    constructor
    · intro same
      -- The callback declines a node that shows the state already.
      obtain ⟨fields, rfl, shown⟩ := get_of_sameNode same
        (show (List.lookup "automaticServiceState" _).isSome = true from rfl)
      have already : ((JsValue.object fields).field
          "automaticServiceState").isText state = true := by
        show (JsRecord.get fields "automaticServiceState").isText state = true
        rw [shown]
        exact beq_self_eq_true state
      unfold blockedRefused at refused
      rw [already, Bool.or_true] at refused
      cases refused
    · intro impossible
      cases impossible

end LiveUpdate

open LiveUpdate

/-- **Transactions on a cold cache** have the effect of their callback, except
a device retirement and a blocked assignment that would have changed the
node. -/
theorem cold_transactions_have_their_effect (convert : JsValue R → R)
    (update : LiveUpdate R) (server : JsValue R) :
    SameNode (update.coldEffect convert server)
        (update.effect convert server) ↔
      update.ColdSafe convert server := by
  cases update with
  | delay | manualStop | reroute =>
    exact iff_of_true (same_of_answers _ (Option.some_ne_none _)) trivial
  | retirement deviceId revision => exact same_retirement_iff deviceId revision
  | blocked assignment state => exact same_blocked_iff assignment state
  | abandoned fence sessionId cutoff =>
    refine iff_of_true (same_of_worker _ fence _ rfl ?_) trivial
    exact .inr (Option.some_ne_none _)
  | stale fence stopped data =>
    refine iff_of_true (same_of_worker _ fence _ rfl ?_) trivial
    cases stopped with
    | true => exact .inl fun _ => rfl
    | false => exact .inr (Option.some_ne_none _)

def idleBus : JsValue ℚ :=
  .object [("deviceId", .string "device-1"), ("busId", .string "bus-1"),
    ("routeId", .string "route-1"), ("status", .string "offline"),
    ("assignmentRevision", .number 1), ("deviceState", .string "online")]

/-- A retirement that finds a cold cache leaves the bus online. -/
theorem cold_retirement_is_lost :
    ¬ ∀ (update : LiveUpdate ℚ) (server : JsValue ℚ),
      SameNode (update.coldEffect (fun _ => 0) server)
        (update.effect (fun _ => 0) server) := by
  intro claimed
  have same := claimed (.retirement "device-1" 2) idleBus
  have written : (retirement "device-1" (2 : ℚ)).effect (fun _ => 0) idleBus =
      .object ((ownFields idleBus).spread [
        ("deviceId", .string "device-1"),
        ("retiredAssignmentRevision", .number 2),
        ("deviceState", .string "offline")]) := rfl
  rw [written] at same
  obtain ⟨fields, own, offline⟩ := get_of_sameNode same
    (show (List.lookup "deviceState" _).isSome = true from rfl)
  have online : (JsValue.object fields).field "deviceState" =
      .string "online" := by
    rw [← own]
    rfl
  have shown : (JsValue.object fields).field "deviceState" =
      .string "offline" := offline
  rw [shown] at online
  exact absurd (JsValue.string.inj online) (by decide)

end Eki.Live
