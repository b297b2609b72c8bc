import Eki.Authorization.Publication

/-!
# Denied before granted

Once a publication has blocked a user in both stores, no earlier version is
stored as active again: a late write is either the blocking of a publication
that went no further, or conditional on the version that it belongs to.
-/

namespace Eki.Authorization

open Transition
open Function (update_of_ne update_self)
open List (mem_cons mem_cons_of_mem mem_cons_self)
open Option (any_eq_true bind_eq_some_iff map_eq_some_iff)

namespace UserAuthorization

def Completed (state : UserAuthorization) (version : Nat) : Prop :=
  .blocked version ∈ state.history

/-- The revocation and the claims of this version have been acknowledged. -/
def Claimed (state : UserAuthorization) (version : Nat) (grant : Grant) :
    Prop :=
  .revoked version ∈ state.history ∧ .claimed version grant ∈ state.history

end UserAuthorization

def Claims.Unblocked (claims : Claims) : Prop :=
  claims.authorizationVersion.isSome → claims.role ≠ some "blocked"

/-! ## What holds in every state -/

structure SoundRecord (state : UserAuthorization)
    (record : AuthorizationRecord) : Prop where
  active : record.role ≠ "blocked" →
    ∃ grant : Grant, record.role = grant.role ∧
      state.Claimed record.version grant
  newest : state.Completed record.version →
    ∀ other, state.Completed other → other ≤ record.version

/-- A write that may take effect in this state. -/
def Allowed (state : UserAuthorization) : Write → Prop
  | .set _ record =>
    record.role = "blocked" ∧ ¬ state.Completed record.version
  | .update _ version value =>
    state.Completed version ∧ value.version = version ∧
      (value.role ≠ "blocked" →
        ∃ grant : Grant, value.role = grant.role ∧ state.Claimed version grant)
  | .revokeRefreshTokens => True
  | .setCustomUserClaims claims => claims.Unblocked

/-- The version of a write that nobody waits for will not complete. -/
def Lost (state : UserAuthorization) : Write → Prop
  | .set store record =>
    record.version < state.published ∧
      ∀ call, state.call = some call → call.version = record.version →
        ∃ writes, call.stage = .blocking writes ∧ writes store = .failed
  | _ => True

def SoundStage (state : UserAuthorization) (call : Publication) :
    Stage → Prop
  | .blocking writes =>
    ¬ state.Completed call.version ∧
      ∀ store, writes store = .done →
        ∃ record, state.records store = some record ∧
          (record.version = call.version ∨ ¬ state.Completed record.version)
  | .revoking => state.Completed call.version
  | .claiming =>
    state.Completed call.version ∧ .revoked call.version ∈ state.history
  | .activating _ | .rollingBack _ =>
    state.Completed call.version ∧ state.Claimed call.version call.grant

structure SoundCall (state : UserAuthorization) (call : Publication) :
    Prop where
  newest : ∀ other, state.Completed other → other ≤ call.version
  fresh : call.version < state.published
  stage : SoundStage state call call.stage

structure Sound (state : UserAuthorization) : Prop where
  records : ∀ store record, state.records store = some record →
    SoundRecord state record
  present : ∀ version store, state.Completed version →
    (state.records store).isSome
  below : ∀ version, state.Completed version → version < state.published
  claimed : ∀ version grant, .claimed version grant ∈ state.history →
    state.Completed version
  allowed : ∀ write ∈ state.late, Allowed state write
  lost : ∀ write ∈ state.late, Lost state write
  call : ∀ call, state.call = some call → SoundCall state call
  claims : state.customClaims.Unblocked
  tokens : ∀ token ∈ state.tokens, token.Unblocked

theorem sound_start (role : Option String) (admin : Bool)
    (driverId assignedBusId : Option String) :
    Sound (.start role admin driverId assignedBusId) := by
  constructor
  · intro store record found
    cases found
  · intro version store completed
    cases completed
  · intro version completed
    cases completed
  · intro version grant claimed
    cases claimed
  · intro write member
    cases member
  · intro write member
    cases member
  · intro call calls
    cases calls
  · intro versioned
    cases versioned
  · intro token member
    cases member

/-! ## The effect of a write -/

variable {state next : UserAuthorization}

variable {write : Write}

theorem records_of_apply (sound : Sound state) (allowed : Allowed state write)
    (store : Store) :
    (state.apply write).1.records store = state.records store ∨
      ∃ record, (state.apply write).1.records store = some record ∧
        SoundRecord state record ∧
        (¬ state.Completed record.version ∨
          ∃ old, state.records store = some old ∧
            old.version = record.version) := by
  cases write with
  | set target record =>
    by_cases here : store = target
    · subst here
      right
      refine ⟨record, update_self _ _ _, ?_, .inl allowed.2⟩
      constructor
      · intro active
        exact absurd allowed.1 active
      · intro completed
        exact absurd completed allowed.2
    · exact .inl (update_of_ne here _ _)
  | update target version value =>
    by_cases here : store = target
    · subst here
      obtain ⟨completed, own, active⟩ := allowed
      have stands := sound.present version store completed
      obtain ⟨old, found⟩ := Option.isSome_iff_exists.mp stands
      by_cases same : old.version = version
      · right
        refine ⟨value, ?_, ?_, .inr ⟨old, found, same.trans own.symm⟩⟩
        · simp [UserAuthorization.apply, UserAuthorization.setRecord,
            updated, found, same]
        · constructor
          · rw [own]
            exact active
          · rw [own, ← same]
            exact (sound.records store old found).newest
      · left
        simp [UserAuthorization.apply, UserAuthorization.setRecord,
          updated, found, same]
    · exact .inl (update_of_ne here _ _)
  | revokeRefreshTokens | setCustomUserClaims => exact .inl rfl

theorem frame_of_apply (state : UserAuthorization) (write : Write) :
    (state.apply write).1.history = state.history ∧
      (state.apply write).1.call = state.call ∧
      (state.apply write).1.late = state.late ∧
      (state.apply write).1.published = state.published ∧
      (state.apply write).1.tokens = state.tokens := by
  cases write <;> exact ⟨rfl, rfl, rfl, rfl, rfl⟩

theorem claims_of_apply (sound : Sound state) (allowed : Allowed state write) :
    (state.apply write).1.customClaims.Unblocked := by
  cases write with
  | set | update | revokeRefreshTokens => exact sound.claims
  | setCustomUserClaims claims => exact allowed

/-! ## What a step keeps -/

/-- What was recorded before stays recorded, and no blocking is added. -/
structure SameBlocking (state next : UserAuthorization) : Prop where
  completed : ∀ version, next.Completed version ↔ state.Completed version
  claimed : ∀ version grant, state.Claimed version grant →
    next.Claimed version grant
  revoked : ∀ version, .revoked version ∈ state.history →
    .revoked version ∈ next.history

theorem SameBlocking.of_history (history : next.history = state.history) :
    SameBlocking state next := by
  constructor
  · intro version
    rw [UserAuthorization.Completed, history]
    rfl
  · intro version grant holds
    rw [UserAuthorization.Claimed, history]
    exact holds
  · rw [history]
    exact fun _ => id

theorem SameBlocking.of_event {event : Event}
    (history : next.history = event :: state.history)
    (other : ∀ version, event ≠ .blocked version) :
    SameBlocking state next := by
  constructor
  · intro version
    rw [UserAuthorization.Completed, history, mem_cons]
    constructor
    · intro member
      rcases member with same | member
      · exact absurd same.symm (other version)
      · exact member
    · exact .inr
  · intro version grant holds
    rw [UserAuthorization.Claimed, history]
    exact ⟨mem_cons_of_mem _ holds.1, mem_cons_of_mem _ holds.2⟩
  · intro version member
    rw [history]
    exact mem_cons_of_mem _ member

variable {record : AuthorizationRecord}

theorem SoundRecord.transfer (sound : SoundRecord state record)
    (same : SameBlocking state next) : SoundRecord next record := by
  constructor
  · intro active
    obtain ⟨grant, role, claimed⟩ := sound.active active
    exact ⟨grant, role, same.claimed _ _ claimed⟩
  · intro completed other completedOther
    apply sound.newest
    · exact (same.completed _).mp completed
    · exact (same.completed _).mp completedOther

theorem Allowed.transfer (allowed : Allowed state write)
    (same : SameBlocking state next) : Allowed next write := by
  cases write with
  | set store record =>
    exact ⟨allowed.1, mt (same.completed _).mp allowed.2⟩
  | update store version value =>
    obtain ⟨completed, own, active⟩ := allowed
    refine ⟨(same.completed _).mpr completed, own, ?_⟩
    intro unblocked
    obtain ⟨grant, role, claimed⟩ := active unblocked
    exact ⟨grant, role, same.claimed _ _ claimed⟩
  | revokeRefreshTokens => trivial
  | setCustomUserClaims claims => exact allowed

variable {stage : Stage}

theorem SoundStage.transfer {call : Publication}
    (rests : SoundStage state call stage) (same : SameBlocking state next)
    (records : ∀ store record, state.records store = some record →
      ∃ after, next.records store = some after ∧
        (after.version = record.version ∨
          ¬ state.Completed after.version)) : SoundStage next call stage := by
  cases stage with
  | blocking writes =>
    obtain ⟨unfinished, done⟩ := rests
    refine ⟨mt (same.completed _).mp unfinished, ?_⟩
    intro store written
    obtain ⟨record, found, own⟩ := done store written
    obtain ⟨after, stored, kept | other⟩ := records store record found
    · refine ⟨after, stored, ?_⟩
      rw [kept]
      exact own.imp_right (mt (same.completed _).mp)
    · exact ⟨after, stored, .inr (mt (same.completed _).mp other)⟩
  | revoking => exact (same.completed _).mpr rests
  | claiming =>
    exact ⟨(same.completed _).mpr rests.1, same.revoked _ rests.2⟩
  | activating | rollingBack =>
    exact ⟨(same.completed _).mpr rests.1, same.claimed _ _ rests.2⟩

theorem Sound.of_same (sound : Sound state) (same : SameBlocking state next)
    (records : next.records = state.records)
    (published : state.published ≤ next.published)
    (claimed : ∀ version grant, .claimed version grant ∈ next.history →
      state.Completed version)
    (allowed : ∀ write ∈ next.late, Allowed state write)
    (lost : ∀ write ∈ next.late, Lost next write)
    (call : ∀ call, next.call = some call → SoundCall next call)
    (claims : next.customClaims.Unblocked)
    (tokens : ∀ token ∈ next.tokens, token.Unblocked) : Sound next := by
  constructor
  · intro store record found
    rw [records] at found
    exact (sound.records store record found).transfer same
  · intro version store completed
    rw [records]
    exact sound.present version store ((same.completed _).mp completed)
  · intro version completed
    have bound := sound.below version ((same.completed _).mp completed)
    omega
  · intro version grant member
    exact (same.completed _).mpr (claimed version grant member)
  · intro write member
    exact (allowed write member).transfer same
  · exact lost
  · exact call
  · exact claims
  · exact tokens

theorem Sound.apply (sound : Sound state) (allowed : Allowed state write) :
    Sound (state.apply write).1 := by
  obtain ⟨history, calls, late, published, tokens⟩ :=
    frame_of_apply state write
  have same := SameBlocking.of_history history
  constructor
  · intro store record found
    rcases records_of_apply sound allowed store with
      kept | ⟨after, stored, right, -⟩
    · exact (sound.records store record (kept.symm.trans found)).transfer same
    · rw [stored] at found
      cases found
      exact right.transfer same
  · intro version store completed
    rcases records_of_apply sound allowed store with
      kept | ⟨after, stored, -⟩
    · rw [kept]
      exact sound.present version store ((same.completed _).mp completed)
    · rw [stored]
      rfl
  · intro version completed
    rw [published]
    exact sound.below version ((same.completed _).mp completed)
  · intro version grant member
    rw [history] at member
    exact (same.completed _).mpr (sound.claimed version grant member)
  · intro other member
    rw [late] at member
    exact (sound.allowed other member).transfer same
  · intro other member
    rw [late] at member
    have lost := sound.lost other member
    cases other with
    | set store record =>
      rw [Lost, published, calls]
      exact lost
    | update | revokeRefreshTokens | setCustomUserClaims => trivial
  · intro call stands
    rw [calls] at stands
    have rests := sound.call call stands
    constructor
    · intro other completed
      exact rests.newest other ((same.completed _).mp completed)
    · rw [published]
      exact rests.fresh
    · apply SoundStage.transfer rests.stage same
      intro store record found
      rcases records_of_apply sound allowed store with
        kept | ⟨after, stored, -, other | ⟨old, before, version⟩⟩
      · exact ⟨record, kept.trans found, .inl rfl⟩
      · exact ⟨after, stored, .inr other⟩
      · rw [found] at before
        cases before
        exact ⟨after, stored, .inl version.symm⟩
  · exact claims_of_apply sound allowed
  · rw [tokens]
    exact sound.tokens

/-! ## The call's own steps -/

variable {call : Publication}

theorem SoundCall.transfer (sound : SoundCall state call)
    (history : next.history = state.history)
    (records : next.records = state.records)
    (published : next.published = state.published) : SoundCall next call := by
  have same := SameBlocking.of_history history
  constructor
  · intro other completed
    exact sound.newest other ((same.completed _).mp completed)
  · rw [published]
    exact sound.fresh
  · apply SoundStage.transfer sound.stage same
    rw [records]
    exact fun store record found => ⟨record, found, .inl rfl⟩

/-- Whatever the call has dispatched may take effect. -/
theorem SoundCall.allowed (sound : SoundCall state call) (store : Store) :
    Allowed state (call.write store) := by
  have rests := sound.stage
  obtain ⟨version, grant, stage⟩ := call
  cases stage with
  | blocking writes => exact ⟨rfl, rests.1⟩
  | revoking => trivial
  | claiming =>
    intro _ same
    exact grant.unblocked (Option.some.inj same)
  | activating writes =>
    exact ⟨rests.1, rfl, fun _ => ⟨grant, rfl, rests.2⟩⟩
  | rollingBack writes =>
    exact ⟨rests.1, rfl, fun active => absurd rfl active⟩

theorem lost_of_ended (sound : SoundCall state call) (store : Store)
    (ended : next.call = none) (published : next.published = state.published) :
    Lost next (call.write store) := by
  obtain ⟨version, grant, stage⟩ := call
  cases stage with
  | blocking writes =>
    refine ⟨?_, ?_⟩
    · rw [published]
      exact sound.fresh
    · intro call calls
      rw [ended] at calls
      cases calls
  | revoking | claiming | activating | rollingBack => trivial

theorem Lost.ended (lost : Lost state write) (ended : next.call = none)
    (published : next.published = state.published) : Lost next write := by
  cases write with
  | set store record =>
    refine ⟨?_, ?_⟩
    · rw [published]
      exact lost.1
    · intro call calls
      rw [ended] at calls
      cases calls
  | update | revokeRefreshTokens | setCustomUserClaims => trivial

theorem Sound.of_ended (sound : Sound state)
    (calls : state.call = some call)
    (same : next.history = state.history)
    (records : next.records = state.records)
    (ended : next.call = none) (published : next.published = state.published)
    (late : ∀ write ∈ next.late,
      write ∈ state.late ∨ ∃ store, write = call.write store)
    (claims : next.customClaims = state.customClaims)
    (tokens : next.tokens = state.tokens) : Sound next := by
  have rests := sound.call call calls
  apply sound.of_same (.of_history same) records (Nat.le_of_eq published.symm)
  · rw [same]
    exact sound.claimed
  · intro write member
    rcases late write member with old | ⟨store, own⟩
    · exact sound.allowed write old
    · rw [own]
      exact rests.allowed store
  · intro write member
    rcases late write member with old | ⟨store, own⟩
    · exact (sound.lost write old).ended ended published
    · rw [own]
      exact lost_of_ended rests store ended published
  · intro other stands
    rw [ended] at stands
    cases stands
  · rw [claims]
    exact sound.claims
  · rw [tokens]
    exact sound.tokens

theorem Sound.stop (sound : Sound state) (calls : state.call = some call) :
    Sound (state.stop call) := by
  apply sound.of_ended calls
  · rfl
  · rfl
  · rfl
  · rfl
  · intro write member
    rcases List.mem_append.mp member with own | old
    · right
      unfold Publication.pendingWrites at own
      split at own
      · obtain ⟨store, -, same⟩ := List.mem_map.mp own
        exact ⟨store, same.symm⟩
      · exact ⟨.firestore, List.mem_singleton.mp own⟩
    · exact .inl old
  · rfl
  · rfl

variable {store : Store}

variable {settled : WriteState}

theorem stage_of_settle (rests : SoundStage state call call.stage)
    (written : ∀ writes, call.stage = .blocking writes → settled = .done →
      state.records store = some (.blocked call.version)) :
    SoundStage state (call.settle store settled)
      (call.settle store settled).stage := by
  obtain ⟨version, grant, stage⟩ := call
  cases stage with
  | blocking writes =>
    refine ⟨rests.1, ?_⟩
    intro other done
    by_cases here : other = store
    · subst here
      rw [update_self] at done
      exact ⟨_, written writes rfl done, .inl rfl⟩
    · rw [update_of_ne here] at done
      exact rests.2 other done
  | revoking | claiming | activating | rollingBack => exact rests

theorem Lost.settle (lost : Lost state write) (calls : state.call = some call)
    (pending : call.writes.any (· store == .pending) = true)
    (nextCall : next.call = some (call.settle store settled))
    (published : next.published = state.published) : Lost next write := by
  cases write with
  | set target record =>
    refine ⟨?_, ?_⟩
    · rw [published]
      exact lost.1
    · intro other stands same
      rw [nextCall] at stands
      cases stands
      obtain ⟨writes, blocking, failed⟩ := lost.2 call calls same
      have elsewhere : target ≠ store := by
        intro here
        subst here
        simp [Publication.writes, blocking, failed] at pending
      refine ⟨Function.update writes store settled, ?_, ?_⟩
      · simp [Publication.settle, blocking]
      · rw [update_of_ne elsewhere]
        exact failed
  | update | revokeRefreshTokens | setCustomUserClaims => trivial

theorem Sound.settle (sound : Sound state) (settled : WriteState)
    (calls : state.call = some call)
    (pending : call.writes.any (· store == .pending) = true)
    (written : ∀ writes, call.stage = .blocking writes → settled = .done →
      state.records store = some (.blocked call.version))
    (late : settled = .failed ∧ next.late = call.write store :: state.late ∨
      next.late = state.late) (history : next.history = state.history)
    (records : next.records = state.records)
    (nextCall : next.call = some (call.settle store settled))
    (published : next.published = state.published)
    (claims : next.customClaims = state.customClaims)
    (tokens : next.tokens = state.tokens) : Sound next := by
  have rests := sound.call call calls
  have same := SameBlocking.of_history history
  have known : ∀ write ∈ next.late, write ∈ state.late ∨
      settled = .failed ∧ write = call.write store := by
    intro write member
    rcases late with ⟨failed, extended⟩ | kept
    · rw [extended] at member
      rcases mem_cons.mp member with own | old
      · exact .inr ⟨failed, own⟩
      · exact .inl old
    · rw [kept] at member
      exact .inl member
  apply sound.of_same same records (Nat.le_of_eq published.symm)
  · rw [history]
    exact sound.claimed
  · intro write member
    rcases known write member with old | ⟨-, own⟩
    · exact sound.allowed write old
    · rw [own]
      exact rests.allowed store
  · intro write member
    rcases known write member with old | ⟨failed, own⟩
    · exact (sound.lost write old).settle calls pending nextCall published
    · rw [own]
      obtain ⟨version, grant, stage⟩ := call
      cases stage with
      | blocking writes =>
        refine ⟨?_, ?_⟩
        · rw [published]
          exact rests.fresh
        · intro other stands _
          rw [nextCall] at stands
          cases stands
          refine ⟨_, rfl, ?_⟩
          rw [update_self]
          exact failed
      | revoking | claiming | activating | rollingBack => trivial
  · intro other stands
    rw [nextCall] at stands
    cases stands
    have moved := stage_of_settle rests.stage written
    constructor
    · intro other completed
      exact rests.newest other ((same.completed _).mp completed)
    · rw [published]
      exact rests.fresh
    · apply SoundStage.transfer moved same
      rw [records]
      exact fun store record found => ⟨record, found, .inl rfl⟩
  · rw [claims]
    exact sound.claims
  · rw [tokens]
    exact sound.tokens

theorem Sound.complete (sound : Sound state) {writes : Store → WriteState}
    (calls : state.call = some call) (blocking : call.stage = .blocking writes)
    (done : ∀ store, writes store = .done) :
    Sound
      { state.goOn call .revoking with
        history := .blocked call.version :: state.history } := by
  obtain ⟨newest, fresh, stage⟩ := sound.call call calls
  rw [blocking] at stage
  obtain ⟨unfinished, stored⟩ := stage
  let next : UserAuthorization :=
    { state.goOn call .revoking with
      history := .blocked call.version :: state.history }
  have completed : ∀ version, next.Completed version →
      version = call.version ∨ state.Completed version := by
    intro version member
    rcases mem_cons.mp member with same | old
    · cases same
      exact .inl rfl
    · exact .inr old
  have claimed : ∀ version grant, state.Claimed version grant →
      next.Claimed version grant := fun version grant holds =>
    ⟨mem_cons_of_mem _ holds.1, mem_cons_of_mem _ holds.2⟩
  have bound : ∀ other, next.Completed other → other ≤ call.version := by
    intro other member
    rcases completed other member with same | old
    · exact Nat.le_of_eq same
    · exact newest other old
  constructor
  · intro store record found
    have right := sound.records store record found
    constructor
    · intro active
      obtain ⟨grant, role, holds⟩ := right.active active
      exact ⟨grant, role, claimed _ _ holds⟩
    · intro member other completedOther
      obtain ⟨kept, there, own⟩ := stored store (done store)
      have same : kept = record := Option.some.inj (there.symm.trans found)
      subst same
      have version : kept.version = call.version := by
        rcases completed _ member with same | old
        · exact same
        · exact own.resolve_right (absurd old)
      rw [version]
      exact bound other completedOther
  · intro version store member
    obtain ⟨record, there, -⟩ := stored store (done store)
    exact Option.isSome_iff_exists.mpr ⟨record, there⟩
  · intro version member
    exact Nat.lt_of_le_of_lt (bound version member) fresh
  · intro version grant member
    rcases mem_cons.mp member with same | old
    · cases same
    · exact mem_cons_of_mem _ (sound.claimed version grant old)
  · intro write member
    have allowed := sound.allowed write member
    have lost := sound.lost write member
    cases write with
    | set store record =>
      refine ⟨allowed.1, ?_⟩
      intro member
      rcases completed _ member with same | old
      · obtain ⟨others, stage, failed⟩ := lost.2 call calls same.symm
        rw [blocking] at stage
        cases stage
        rw [done store] at failed
        cases failed
      · exact allowed.2 old
    | update store version value =>
      obtain ⟨finished, own, active⟩ := allowed
      refine ⟨mem_cons_of_mem _ finished, own, ?_⟩
      intro unblocked
      obtain ⟨grant, role, holds⟩ := active unblocked
      exact ⟨grant, role, claimed _ _ holds⟩
    | revokeRefreshTokens => trivial
    | setCustomUserClaims claims => exact allowed
  · intro write member
    have lost := sound.lost write member
    cases write with
    | set store record =>
      refine ⟨lost.1, ?_⟩
      intro other stands same
      cases stands
      obtain ⟨others, stage, failed⟩ := lost.2 call calls same
      rw [blocking] at stage
      cases stage
      rw [done store] at failed
      cases failed
    | update | revokeRefreshTokens | setCustomUserClaims => trivial
  · intro other stands
    cases stands
    exact ⟨bound, fresh, mem_cons_self⟩
  · exact sound.claims
  · exact sound.tokens

theorem Lost.goOn (lost : Lost state write) (calls : state.call = some call)
    (past : ∀ writes, call.stage ≠ .blocking writes) {after : Publication}
    (version : after.version = call.version)
    (nextCall : next.call = some after)
    (published : next.published = state.published) : Lost next write := by
  cases write with
  | set store record =>
    refine ⟨?_, ?_⟩
    · rw [published]
      exact lost.1
    · intro other stands same
      rw [nextCall] at stands
      cases stands
      obtain ⟨writes, blocking, -⟩ :=
        lost.2 call calls (version.symm.trans same)
      exact absurd blocking (past writes)
  | update | revokeRefreshTokens | setCustomUserClaims => trivial

theorem Sound.goOn (sound : Sound state) (calls : state.call = some call)
    (past : ∀ writes, call.stage ≠ .blocking writes)
    (same : SameBlocking state next) (records : next.records = state.records)
    (nextCall : next.call = some { call with stage })
    (rests : SoundStage next { call with stage } stage)
    (claimed : ∀ version grant, .claimed version grant ∈ next.history →
      state.Completed version) (late : next.late = state.late)
    (published : next.published = state.published)
    (claims : next.customClaims.Unblocked)
    (tokens : next.tokens = state.tokens) : Sound next := by
  have before := sound.call call calls
  apply sound.of_same same records (Nat.le_of_eq published.symm) claimed
  · rw [late]
    exact sound.allowed
  · intro write member
    rw [late] at member
    apply (sound.lost write member).goOn calls past _ nextCall published
    rfl
  · intro other stands
    rw [nextCall] at stands
    cases stands
    constructor
    · intro other completed
      exact before.newest other ((same.completed _).mp completed)
    · rw [published]
      exact before.fresh
    · exact rests
  · exact claims
  · rw [tokens]
    exact sound.tokens

theorem Sound.proceed (sound : Sound state) (calls : state.call = some call)
    (taken : state.proceed call = some next) : Sound next := by
  have ended : Sound { state with call := none } := by
    apply sound.of_ended calls
    · rfl
    · rfl
    · rfl
    · rfl
    · exact fun _ => .inl
    · rfl
    · rfl
  unfold UserAuthorization.proceed at taken
  split at taken
  · cases taken
  · rename_i writes dispatched
    split at taken
    · cases taken
    · cases taken
      split
      · rename_i blockingWrites blocking
        split
        · rename_i all
          have same : blockingWrites = writes := by
            simpa [Publication.writes, blocking] using dispatched
          apply sound.complete calls blocking
          simp only [Bool.and_eq_true, beq_iff_eq] at all
          intro store
          rw [same]
          cases store with
          | firestore => exact all.1
          | realtime => exact all.2
        · exact ended
      · rename_i activatingWrites activating
        split
        · exact ended
        · have rests := (sound.call call calls).stage
          rw [activating] at rests
          apply sound.goOn calls
          · intro writes blocking
            rw [activating] at blocking
            cases blocking
          · exact .of_history rfl
          · rfl
          · rfl
          · exact rests
          · exact sound.claimed
          · rfl
          · rfl
          · exact sound.claims
          · rfl
      · exact ended

theorem Sound.publish (sound : Sound state) (grant : Grant) :
    Sound
      { state with
        call :=
          some
            { version := state.published
              grant
              stage := .blocking UserAuthorization.allPending }
        published := state.published + 1 } := by
  apply sound.of_same
  · exact .of_history rfl
  · rfl
  · exact Nat.le_succ _
  · exact sound.claimed
  · exact sound.allowed
  · intro write member
    have lost := sound.lost write member
    cases write with
    | set store record =>
      refine ⟨Nat.lt_succ_of_lt lost.1, ?_⟩
      intro other stands same
      cases stands
      exact absurd same.symm (Nat.ne_of_lt lost.1)
    | update | revokeRefreshTokens | setCustomUserClaims => trivial
  · intro other stands
    cases stands
    constructor
    · intro other completed
      exact Nat.le_of_lt (sound.below other completed)
    · exact Nat.lt_succ_self _
    · refine ⟨?_, ?_⟩
      · intro completed
        exact Nat.lt_irrefl _ (sound.below _ completed)
      · intro store done
        cases done
  · exact sound.claims
  · exact sound.tokens

theorem unblocked_of_passengerClaims {existing claims : Claims}
    (repaired : passengerClaims existing = some claims) : claims.Unblocked := by
  unfold passengerClaims at repaired
  split at repaired
  · cases repaired
  · split at repaired
    · cases repaired
    · cases repaired
      intro _ same
      simp at same

theorem Sound.step {label : Label} (sound : Sound state)
    (taken : UserAuthorization.step state label = some next) :
    Sound next := by
  cases label with
  | publish grant =>
    simp only [UserAuthorization.step] at taken
    split at taken
    · cases taken
    · cases taken
      exact sound.publish grant
  | settle store acknowledged =>
    obtain ⟨call, calls, goes⟩ := bind_eq_some_iff.mp taken
    split at goes
    · rename_i pending
      cases goes
      have allowed := (sound.call call calls).allowed store
      cases acknowledged with
      | true =>
        obtain ⟨-, stands, -⟩ :=
          frame_of_apply state (call.write store)
        apply (sound.apply allowed).settle _ (stands.trans calls) pending
        · intro writes blocking _
          simp [Publication.write, blocking, UserAuthorization.apply,
            UserAuthorization.setRecord]
        · exact .inr rfl
        · rfl
        · rfl
        · rfl
        · rfl
        · rfl
        · rfl
      | false =>
        apply sound.settle .failed calls pending
        · intro writes blocking done
          cases done
        · exact .inl ⟨rfl, rfl⟩
        · rfl
        · rfl
        · rfl
        · rfl
        · rfl
        · rfl
    · cases goes
  | proceed =>
    obtain ⟨call, calls, goes⟩ := bind_eq_some_iff.mp taken
    exact sound.proceed calls goes
  | revoke acknowledged =>
    simp only [UserAuthorization.step] at taken
    split at taken
    · rename_i version grant calls
      cases taken
      split
      · have rests := (sound.call _ calls).stage
        apply sound.goOn calls
        · intro writes blocking
          cases blocking
        · apply SameBlocking.of_event rfl
          intro version same
          cases same
        · rfl
        · rfl
        · exact ⟨mem_cons_of_mem _ rests, mem_cons_self⟩
        · intro version grant member
          apply sound.claimed version grant
          simpa using member
        · rfl
        · rfl
        · exact sound.claims
        · rfl
      · exact sound.stop calls
    · cases taken
  | claim acknowledged =>
    simp only [UserAuthorization.step] at taken
    split at taken
    · rename_i version grant calls
      cases taken
      split
      · obtain ⟨completed, revoked⟩ := (sound.call _ calls).stage
        apply sound.goOn calls
        · intro writes blocking
          cases blocking
        · apply SameBlocking.of_event rfl
          intro version same
          cases same
        · rfl
        · rfl
        · exact ⟨mem_cons_of_mem _ completed,
            mem_cons_of_mem _ revoked, mem_cons_self⟩
        · intro other otherGrant member
          rcases mem_cons.mp member with same | old
          · cases same
            exact completed
          · exact sound.claimed other otherGrant old
        · rfl
        · rfl
        · intro _ same
          exact grant.unblocked (Option.some.inj same)
        · rfl
      · exact sound.stop calls
    · cases taken
  | crash =>
    obtain ⟨call, calls, stops⟩ := map_eq_some_iff.mp taken
    cases stops
    exact sound.stop calls
  | late n =>
    obtain ⟨write, found, effect⟩ := map_eq_some_iff.mp taken
    cases effect
    have member := List.mem_of_getElem? found
    have after := sound.apply (sound.allowed write member)
    have late := (frame_of_apply state write).2.2.1
    have remains : ∀ other ∈ state.late.eraseIdx n,
        other ∈ (state.apply write).1.late := by
      intro other among
      rw [late]
      exact List.mem_of_mem_eraseIdx among
    apply after.of_same
    · exact .of_history rfl
    · rfl
    · exact Nat.le_refl _
    · exact after.claimed
    · intro other among
      exact after.allowed other (remains other among)
    · intro other among
      exact after.lost other (remains other among)
    · exact fun call calls => (after.call call calls).transfer rfl rfl rfl
    · exact after.claims
    · exact after.tokens
  | issue =>
    cases taken
    apply sound.of_same
    · exact .of_history rfl
    · rfl
    · exact Nat.le_refl _
    · exact sound.claimed
    · exact sound.allowed
    · exact sound.lost
    · exact fun call calls => (sound.call call calls).transfer rfl rfl rfl
    · exact sound.claims
    · intro token member
      rcases mem_cons.mp member with new | old
      · rw [new]
        exact sound.claims
      · exact sound.tokens token old
  | ensurePassengerRoleClaim =>
    obtain ⟨claims, repaired, leads⟩ := map_eq_some_iff.mp taken
    cases leads
    apply sound.of_same
    · exact .of_history rfl
    · rfl
    · exact Nat.le_refl _
    · exact sound.claimed
    · intro write member
      rcases mem_cons.mp member with new | old
      · rw [new]
        exact unblocked_of_passengerClaims repaired
      · exact sound.allowed write old
    · intro write member
      rcases mem_cons.mp member with new | old
      · rw [new]
        trivial
      · exact sound.lost write old
    · exact fun call calls => (sound.call call calls).transfer rfl rfl rfl
    · exact sound.claims
    · exact sound.tokens

/-! ## Whole runs -/

/-- The token carries version and role of a publication whose revocation and
claims succeeded, and no later one has blocked the user. -/
def Granted (state : UserAuthorization) (token : Claims) : Prop :=
  ∃ version grant,
    token.authorizationVersion = some version ∧
    token.role = some grant.role ∧ state.Claimed version grant ∧
    ∀ other, state.Completed other → other ≤ version

variable {token : Claims}

theorem Sound.granted (sound : Sound state)
    (stored : state.records store = some record) (issued : token.Unblocked)
    (version : token.authorizationVersion = some record.version)
    (role : token.role = some record.role) : Granted state token := by
  have active : record.role ≠ "blocked" := by
    intro blocked
    apply issued
    · rw [version]
      rfl
    · rw [role, blocked]
  have right := sound.records store record stored
  obtain ⟨grant, same, claimed⟩ := right.active active
  refine ⟨record.version, grant, version, role.trans (by rw [same]), claimed, ?_⟩
  exact right.newest (sound.claimed _ _ claimed.2)

theorem agrees_of_any {stored : Option AuthorizationRecord}
    (agrees : stored.any token.agrees = true) :
    ∃ record, stored = some record ∧
      token.authorizationVersion = some record.version ∧
      token.role = some record.role := by
  obtain ⟨record, found, same⟩ := (any_eq_true _ _).mp agrees
  simp only [Claims.agrees, Bool.and_eq_true, beq_iff_eq] at same
  exact ⟨record, found, same.1.1.1, same.1.1.2⟩

theorem record_of_hasCurrentRole {document : Option AuthorizationRecord}
    {profileRole : Option String} {role : String}
    (current : hasCurrentRole token document profileRole role = true) :
    ∃ record, document = some record ∧
      token.authorizationVersion = some record.version ∧
      token.role = some record.role := by
  simp only [hasCurrentRole, Bool.and_eq_true, beq_iff_eq,
    any_eq_true] at current
  obtain ⟨⟨⟨own, -⟩, record, found, version, same⟩, -⟩ := current
  exact ⟨record, found, version, own.trans (by rw [same])⟩

theorem record_of_readsPublicRouteBuses {mirror : Option AuthorizationRecord}
    (reads : readsPublicRouteBuses token mirror = true) :
    ∃ record, mirror = some record ∧
      token.authorizationVersion = some record.version ∧
      token.role = some record.role := by
  simp only [readsPublicRouteBuses, Bool.and_eq_true, beq_iff_eq,
    any_eq_true] at reads
  obtain ⟨⟨⟨-, own⟩, -⟩, record, found, version, same⟩ := reads
  exact ⟨record, found, version, own.trans (by rw [same])⟩

/-- Every enforcement point accepts granted tokens only, from one state to a
later one. -/
structure DeniedFirst (state last : UserAuthorization) : Prop where
  /-- The backend reads the two stores one after the other, in any order. -/
  backend : ∀ token ∈ last.tokens,
    (authorizationIsCurrent token (state.records .firestore)
        (last.records .realtime) = true ∨
      authorizationIsCurrent token (last.records .firestore)
        (state.records .realtime) = true) → Granted last token
  firestore : ∀ token ∈ last.tokens, ∀ profileRole role,
    hasCurrentRole token (last.records .firestore) profileRole role = true →
    Granted last token
  administrators : ∀ token ∈ last.tokens, ∀ profileRole,
    isAdmin token (last.records .firestore) profileRole = true →
    Granted last token
  drivers : ∀ token ∈ last.tokens, ∀ uid profileRole driver driverId busId,
    isAssignedDriver uid token (last.records .firestore) profileRole driver
      driverId busId = true →
    Granted last token
  realtime : ∀ token ∈ last.tokens,
    readsPublicRouteBuses token (last.records .realtime) = true →
    Granted last token
  /-- What was issued under an earlier version is accepted nowhere again. -/
  fenced : ∀ token ∈ last.tokens, ∀ version later,
    token.authorizationVersion = some version → state.Completed later →
    version < later →
    authorizationIsCurrent token (last.records .firestore)
        (last.records .realtime) = false ∧
      (∀ profileRole role,
        hasCurrentRole token (last.records .firestore) profileRole role =
          false) ∧
      readsPublicRouteBuses token (last.records .realtime) = false

theorem sound_of_steps {role : Option String} {admin : Bool}
    {driverId assignedBusId : Option String}
    (reached : UserAuthorization.step.Steps (fun _ _ => True)
      (.start role admin driverId assignedBusId) state) : Sound state := by
  apply reached.invariant (sound_start role admin driverId assignedBusId)
  intro before label after sound _ taken
  exact sound.step taken

theorem history_of_proceed
    (taken : state.proceed call = some next) :
    next.history = state.history ∨
      ∃ event, next.history = event :: state.history := by
  unfold UserAuthorization.proceed at taken
  split at taken
  · cases taken
  · split at taken
    · cases taken
    · cases taken
      split
      · split
        · exact .inr ⟨_, rfl⟩
        · exact .inl rfl
      · split
        · exact .inl rfl
        · exact .inl rfl
      · exact .inl rfl

variable {label : Label}

/-- What was acknowledged stays recorded. -/
theorem history_of_step
    (taken : UserAuthorization.step state label = some next) :
    next.history = state.history ∨
      ∃ event, next.history = event :: state.history := by
  cases label with
  | publish grant =>
    simp only [UserAuthorization.step] at taken
    split at taken <;> cases taken
    exact .inl rfl
  | settle store acknowledged =>
    obtain ⟨call, calls, goes⟩ := bind_eq_some_iff.mp taken
    split at goes
    · cases goes
      cases acknowledged with
      | true => exact .inl (frame_of_apply state (call.write store)).1
      | false => exact .inl rfl
    · cases goes
  | proceed =>
    obtain ⟨call, calls, goes⟩ := bind_eq_some_iff.mp taken
    exact history_of_proceed goes
  | revoke | claim =>
    simp only [UserAuthorization.step] at taken
    split at taken
    · cases taken
      split
      · exact .inr ⟨_, rfl⟩
      · exact .inl rfl
    · cases taken
  | crash =>
    obtain ⟨call, calls, stops⟩ := map_eq_some_iff.mp taken
    cases stops
    exact .inl rfl
  | late n =>
    obtain ⟨write, found, effect⟩ := map_eq_some_iff.mp taken
    cases effect
    exact .inl (frame_of_apply state write).1
  | issue =>
    cases taken
    exact .inl rfl
  | ensurePassengerRoleClaim =>
    obtain ⟨claims, repaired, leads⟩ := map_eq_some_iff.mp taken
    cases leads
    exact .inl rfl

theorem completed_of_step {version : Nat} (completed : state.Completed version)
    (taken : UserAuthorization.step state label = some next) :
    next.Completed version := by
  rcases history_of_step taken with same | ⟨event, extended⟩
  · rw [UserAuthorization.Completed, same]
    exact completed
  · rw [UserAuthorization.Completed, extended]
    exact mem_cons_of_mem _ completed

theorem authorization_denied_first {last : UserAuthorization}
    {role : Option String} {admin : Bool}
    {driverId assignedBusId : Option String}
    (reached : UserAuthorization.step.Steps (fun _ _ => True)
      (.start role admin driverId assignedBusId) state)
    (later : UserAuthorization.step.Steps (fun _ _ => True) state last) :
    DeniedFirst state last := by
  have sound : Sound last := sound_of_steps (reached.trans later)
  have agreed : ∀ token ∈ last.tokens, ∀ store,
      (last.records store).any token.agrees = true → Granted last token := by
    intro token issued store agrees
    obtain ⟨record, stored, version, same⟩ := agrees_of_any agrees
    exact sound.granted stored (sound.tokens token issued) version same
  have firestore : ∀ token ∈ last.tokens, ∀ profileRole role,
      hasCurrentRole token (last.records .firestore) profileRole role = true →
      Granted last token := by
    intro token issued profileRole role accepts
    obtain ⟨record, stored, version, same⟩ := record_of_hasCurrentRole accepts
    exact sound.granted stored (sound.tokens token issued) version same
  have realtime : ∀ token ∈ last.tokens,
      readsPublicRouteBuses token (last.records .realtime) = true →
      Granted last token := by
    intro token issued accepts
    obtain ⟨record, stored, version, same⟩ :=
      record_of_readsPublicRouteBuses accepts
    exact sound.granted stored (sound.tokens token issued) version same
  constructor
  · intro token issued accepts
    simp only [authorizationIsCurrent, Bool.and_eq_true] at accepts
    rcases accepts with ⟨-, agrees⟩ | ⟨⟨-, agrees⟩, -⟩
    · exact agreed token issued .realtime agrees
    · exact agreed token issued .firestore agrees
  · exact firestore
  · intro token issued profileRole accepts
    simp only [isAdmin, Bool.and_eq_true] at accepts
    exact firestore token issued _ _ accepts.1
  · intro token issued uid profileRole driver driverId busId accepts
    simp only [isAssignedDriver, Bool.and_eq_true] at accepts
    exact firestore token issued _ _ accepts.1.1.1.1
  · exact realtime
  · intro token issued version newer own completed older
    have stands : last.Completed newer := by
      apply later.invariant completed
      intro before label after completed _ taken
      exact completed_of_step completed taken
    have refused : ¬ Granted last token := by
      intro granted
      obtain ⟨accepted, grant, carried, -, -, newest⟩ := granted
      rw [own] at carried
      cases carried
      exact absurd (newest newer stands) (Nat.not_le_of_lt older)
    refine ⟨?_, ?_, ?_⟩
    · rw [Bool.eq_false_iff]
      intro accepts
      simp only [authorizationIsCurrent, Bool.and_eq_true] at accepts
      exact refused (agreed token issued .realtime accepts.2)
    · intro profileRole role
      rw [Bool.eq_false_iff]
      exact fun accepts => refused (firestore token issued _ _ accepts)
    · rw [Bool.eq_false_iff]
      exact fun accepts => refused (realtime token issued accepts)

def smallGrant : Grant where
  role := "driver"
  driverId := some "driver"
  assignedBusId := some "bus"
  unblocked := by decide

def smallPublication : List Label :=
  [ .publish smallGrant,
    .settle .realtime true,
    .settle .firestore true,
    .proceed,
    .revoke true,
    .claim true,
    .settle .firestore true,
    .settle .realtime true,
    .proceed,
    .issue ]

theorem authorization_denied_first_published :
    ∃ last : UserAuthorization,
      (∃ token ∈ last.tokens,
        authorizationIsCurrent token (last.records .firestore)
          (last.records .realtime) = true) ∧ DeniedFirst last last := by
  have decided : (UserAuthorization.step.run (fun _ _ => true)
      (.start (some "passenger") false none none) smallPublication).any
      (fun last => last.tokens.any fun token =>
        authorizationIsCurrent token (last.records .firestore)
          (last.records .realtime)) = true := by
    decide +kernel
  obtain ⟨last, steps, accepts⟩ := System.exists_of_run decided
  refine ⟨last, List.any_eq_true.mp accepts, ?_⟩
  have reached := steps.mono fun _ _ _ => trivial
  exact authorization_denied_first reached (.refl last)

end Eki.Authorization
