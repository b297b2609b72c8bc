import Eki.Devices.CredentialCache

/-!
# What a step of the credential cache does

A step changes flights and callers only, or answers a caller, or publishes what
a current flight has read, or invalidates.  The keys of a device are its own.
-/

namespace Eki.Devices

open Insertion Transition
open Option (all_some bind_eq_some_iff)

/-! ## Keys -/

theorem digitChar_ne_colon {digit : Nat} (small : digit < 16) :
    Nat.digitChar digit ≠ ':' := by
  have all : ∀ digit : Fin 16, Nat.digitChar digit ≠ ':' := by decide
  exact all ⟨digit, small⟩

theorem not_mem_hex (digest : Digest) : ':' ∉ digest.flatMap hexByte := by
  intro member
  obtain ⟨byte, _, digit⟩ := List.mem_flatMap.mp member
  have bound := byte.toNat_lt
  unfold hexByte at digit
  rw [List.mem_cons, List.mem_singleton] at digit
  cases digit with
  | inl high =>
    apply digitChar_ne_colon _ high.symm
    omega
  | inr low =>
    apply digitChar_ne_colon _ low.symm
    omega

theorem toList_credentialCacheKey (deviceId : String) (digest : Digest) :
    (credentialCacheKey deviceId digest).toList =
      deviceId.toList ++ ':' :: digest.flatMap hexByte := by
  unfold credentialCacheKey Digest.hex
  simp

theorem append_colon_inj {first second front back : List Char}
    (plain : ':' ∉ front) (plain' : ':' ∉ back)
    (same : first ++ ':' :: front = second ++ ':' :: back) :
    first = second := by
  obtain ⟨middle, shorter, rest⟩ | ⟨middle, shorter, rest⟩ :=
    List.append_eq_append_iff.mp same
  · cases middle with
    | nil => simpa using shorter.symm
    | cons letter middle =>
      rw [List.cons_append, List.cons.injEq] at rest
      refine absurd ?_ plain
      rw [rest.2]
      simp
  · cases middle with
    | nil => simpa using shorter
    | cons letter middle =>
      rw [List.cons_append, List.cons.injEq] at rest
      refine absurd ?_ plain'
      rw [rest.2]
      simp

theorem deviceId_of_key {deviceId other : String} {digest otherDigest : Digest}
    (same : credentialCacheKey deviceId digest =
      credentialCacheKey other otherDigest) : deviceId = other := by
  have lists := congrArg String.toList same
  rw [toList_credentialCacheKey, toList_credentialCacheKey] at lists
  apply String.toList_inj.mp
  exact append_colon_inj (not_mem_hex _) (not_mem_hex _) lists

theorem Invalidation.deletes_of_covers {invalidation : Invalidation}
    {deviceId : String} (covered : invalidation.covers deviceId = true)
    (digest : Digest) :
    invalidation.deletes (credentialCacheKey deviceId digest) = true := by
  unfold covers at covered
  unfold deletes
  cases whole : invalidation.scope with
  | none => rfl
  | some scope =>
    rw [whole, all_some, beq_iff_eq] at covered
    rw [all_some, List.isPrefixOf_iff_prefix,
      toList_credentialCacheKey, covered]
    exact ⟨digest.flatMap hexByte, by simp⟩

namespace CredentialReplica

variable {tools : CredentialTools} {replica next middle : CredentialReplica}

def Holds (replica : CredentialReplica) (key : String)
    (publication : Publication) : Prop :=
  replica.credentialCache.get key = some publication ∨
    replica.rejectedCredentialCache.get key = some publication

/-! ## What a step does -/

/-- The work of a flight is done. -/
def Done (fill : Fill) : Prop :=
  ∃ outcome, fill.phase = .settled outcome

/-- A flight goes on from one that was there; a read that it has begun was under
way or begins now. -/
structure Follows (replica : CredentialReplica) (fill : Fill) : Prop where
  left : fill.held = false → Done fill ∨
    ∃ old ∈ replica.fills, old.held = false ∧ ¬ Done old
  began : ∀ began, fill.phase.readBegan = some began → fill.current = true →
    began = replica.time ∨
      ∃ old ∈ replica.fills, old.current = true ∧
        old.deviceId = fill.deviceId ∧ old.phase.readBegan = some began

variable {fill : Fill}

theorem follows_of_mem (member : fill ∈ replica.fills) :
    replica.Follows fill := by
  constructor
  · intro gone
    by_cases done : Done fill
    · exact Or.inl done
    · exact Or.inr ⟨fill, member, gone, done⟩
  · intro began reading current
    exact Or.inr ⟨fill, member, current, rfl, reading⟩

theorem follows_of_settled {outcome : Except FillError DeviceCredentialResult}
    (settled : fill.phase = .settled outcome) : replica.Follows fill := by
  constructor
  · intro _
    exact Or.inl ⟨outcome, settled⟩
  · intro began reading
    rw [settled] at reading
    cases reading

theorem follows_of_phase {phase : FillPhase} (member : fill ∈ replica.fills)
    (working : ¬ Done fill) (reads : phase.readBegan = some replica.time ∨
      phase.readBegan = fill.phase.readBegan) :
    replica.Follows { fill with phase } := by
  constructor
  · intro gone
    exact Or.inr ⟨fill, member, gone, working⟩
  · intro began reading current
    cases reads with
    | inl now =>
      left
      exact Option.some.inj (reading.symm.trans now)
    | inr same =>
      right
      exact ⟨fill, member, current, rfl, same.symm.trans reading⟩

/-- Only flights and callers change. -/
structure Quiet (replica next : CredentialReplica) : Prop where
  credentialCache : next.credentialCache = replica.credentialCache
  rejectedCredentialCache :
    next.rejectedCredentialCache = replica.rejectedCredentialCache
  time : next.time = replica.time
  invalidations : next.invalidations = replica.invalidations
  publications : next.publications = replica.publications
  answers : next.answers = replica.answers
  fills : ∀ fill ∈ next.fills, replica.Follows fill

namespace Quiet

theorem refl (replica : CredentialReplica) : replica.Quiet replica :=
  ⟨rfl, rfl, rfl, rfl, rfl, rfl, fun _ member => follows_of_mem member⟩

theorem setFill (quiet : replica.Quiet next) (index : Nat)
    (follows : replica.Follows fill) :
    replica.Quiet (next.setFill index fill) := by
  refine ⟨quiet.credentialCache, quiet.rejectedCredentialCache, quiet.time,
    quiet.invalidations, quiet.publications, quiet.answers, ?_⟩
  intro other member
  cases List.mem_or_eq_of_mem_set member with
  | inl before => exact quiet.fills other before
  | inr same =>
    rw [same]
    exact follows

theorem withCallers (quiet : replica.Quiet next) (callers : List Caller) :
    replica.Quiet { next with callers } :=
  ⟨quiet.credentialCache, quiet.rejectedCredentialCache, quiet.time,
    quiet.invalidations, quiet.publications, quiet.answers, quiet.fills⟩

end Quiet

inductive Effect (replica next : CredentialReplica) : Prop where
  | quiet (quiet : replica.Quiet next)
  /-- An answer; one from an entry has it from the caches. -/
  | answers (middle : CredentialReplica) (quiet : replica.Quiet middle)
      (deviceId : String) (result : DeviceCredentialResult)
      (source : AnswerSource)
      (held : ∀ publication, source.publication = some publication →
        ∃ digest, replica.Holds (credentialCacheKey deviceId digest)
          publication)
      (recorded : next = middle.record deviceId result source)
  /-- A publication by a flight that is still current. -/
  | publishes (fill : Fill) (member : fill ∈ replica.fills)
      (current : fill.current = true) (publication : Publication)
      (device : publication.deviceId = fill.deviceId)
      (began : fill.phase.readBegan = some publication.readBegan)
      (step : publication.step = replica.time)
      (middle : CredentialReplica)
      (quiet : (replica.cacheCredential publication.key publication).Quiet
        middle)
      (recorded : next =
        { middle with publications := publication :: middle.publications })
  | invalidates (scope : Option String)
      (invalidated : next = replica.invalidate scope)

variable {index : Nat}

theorem mem_of_get (found : replica.fills[index]? = some fill) :
    fill ∈ replica.fills :=
  List.mem_of_getElem? found

theorem join_quiet (quiet : replica.Quiet next) (index : Nat) (joinedAt : Int) :
    replica.Quiet (next.join index joinedAt).2 := by
  unfold join
  split
  · exact quiet
  · rename_i fill found
    split
    · exact quiet
    · split
      · exact quiet
      · have follows := quiet.fills fill (mem_of_get found)
        exact quiet.setFill index ⟨follows.left, follows.began⟩

theorem fillDeviceCredentials_quiet (reserved : Bool)
    (deviceId secret : String) (now createdAt joinedAt : Int) :
    replica.Quiet (replica.fillDeviceCredentials tools reserved deviceId secret
      now createdAt joinedAt).2 := by
  unfold fillDeviceCredentials
  simp only
  split
  · exact join_quiet (.refl replica) _ _
  · split
    · exact .refl replica
    · apply join_quiet
      refine ⟨rfl, rfl, rfl, rfl, rfl, rfl, ?_⟩
      intro fill member
      cases List.mem_append.mp member with
      | inl before => exact follows_of_mem before
      | inr added =>
        rw [List.mem_singleton.mp added]
        constructor
        · intro gone
          cases gone
        · intro began reading
          cases reading

theorem checkDeviceCredentials_effect (deviceId secret : String)
    (now cachedAt createdAt joinedAt : Int) :
    replica.Effect (replica.checkDeviceCredentials tools deviceId secret now
      cachedAt createdAt joinedAt) := by
  unfold checkDeviceCredentials
  split
  · apply Effect.answers replica (.refl replica) deviceId .invalid .refused _
      rfl
    intro publication cached
    cases cached
  · simp only
    split
    · rename_i cached found
      have stored := (Option.filter_eq_some_iff.mp found).1
      apply Effect.answers replica (.refl replica) deviceId _ (.cached cached)
        _ rfl
      intro publication same
      cases same
      exact ⟨digestSecret tools secret,
        (Option.or_eq_some_iff.mp stored).imp id And.right⟩
    · exact .quiet ((fillDeviceCredentials_quiet _ _ _ _ _ _).withCallers _)

theorem leave_quiet (index fill : Nat) (caller : Caller)
    (phase : CallerPhase) :
    replica.Quiet (replica.leave index fill caller phase) := by
  unfold leave
  split
  · exact (Quiet.refl replica).withCallers _
  · rename_i flight found
    have follows := follows_of_mem (mem_of_get found)
    have joined : replica.Quiet (replica.setFill fill
        { flight with waiters := flight.waiters - 1 }) :=
      (Quiet.refl replica).setFill fill ⟨follows.left, follows.began⟩
    exact joined.withCallers _

theorem wake_effect {wokenAt : Int}
    (taken : replica.wake index wokenAt = some next) :
    replica.Effect next := by
  obtain ⟨caller, _, taken⟩ := bind_eq_some_iff.mp taken
  split at taken
  · rename_i fill _
    obtain ⟨flight, _, taken⟩ := bind_eq_some_iff.mp taken
    obtain ⟨_, _, taken⟩ := bind_eq_some_iff.mp taken
    split at taken
    · cases taken
      exact .quiet (leave_quiet index fill caller _)
    · split at taken
      · cases taken
        exact .quiet (leave_quiet index fill caller _)
      · cases taken
        apply Effect.answers _ (leave_quiet index fill caller .done) _ _
          .filled _ rfl
        intro publication filled
        cases filled
    · cases taken
  · cases taken

theorem timeout_effect (taken : replica.timeout index = some next) :
    replica.Effect next := by
  obtain ⟨caller, _, taken⟩ := bind_eq_some_iff.mp taken
  split at taken
  · cases taken
    exact .quiet (leave_quiet index _ caller _)
  · cases taken

theorem recover_effect {caughtAt : Int}
    (taken : replica.recover tools index caughtAt = some next) :
    replica.Effect next := by
  obtain ⟨caller, _, taken⟩ := bind_eq_some_iff.mp taken
  split at taken
  · rename_i error _
    have quiet : replica.Quiet
        (replica.setCaller index { caller with phase := .done }) :=
      (Quiet.refl replica).withCallers _
    simp only at taken
    split at taken
    · cases taken
      exact .quiet quiet
    · rename_i previous granted
      cases taken
      apply Effect.answers _ quiet caller.deviceId _ (.staleGrace previous) _
        rfl
      intro publication same
      cases same
      -- The entry is the very one that the cache still has.
      have checks := (Option.filter_eq_some_iff.mp granted).2
      simp only [Bool.and_eq_true, beq_iff_eq] at checks
      exact ⟨_, Or.inl checks.1.1.1.2⟩
  · cases taken

theorem settleWith_quiet (index : Nat) (fill : Fill)
    (outcome : Except FillError DeviceCredentialResult) :
    replica.Quiet (replica.settleWith index fill outcome) :=
  (Quiet.refl replica).setFill index (follows_of_settled rfl)

theorem publish_effect (member : fill ∈ replica.fills) {readBegan : Nat}
    (began : fill.phase.readBegan = some readBegan) (fillStartedAt : Int)
    (assignment : Option DeviceAssignment) (unassigned : Bool)
    (publishedAt : Int) :
    replica.Effect (replica.publish tools index fill readBegan fillStartedAt
      assignment unassigned publishedAt) := by
  unfold publish
  simp only
  split
  · rename_i current
    unfold Fill.isCurrent at current
    rw [Bool.and_eq_true] at current
    exact .publishes fill member current.1 _ rfl began rfl _
      (settleWith_quiet index fill _) rfl
  · exact .quiet (settleWith_quiet index fill _)

theorem not_done {phase : FillPhase} (at_phase : fill.phase = phase)
    (working : ∀ outcome, phase ≠ .settled outcome) : ¬ Done fill := by
  intro done
  obtain ⟨outcome, settled⟩ := done
  exact working outcome (at_phase.symm.trans settled)

theorem beginFill_effect {currentAt fillStartedAt : Int}
    (taken : replica.beginFill index currentAt fillStartedAt = some next) :
    replica.Effect next := by
  obtain ⟨fill, found, taken⟩ := bind_eq_some_iff.mp taken
  split at taken
  · rename_i created
    split at taken
    · cases taken
      apply Effect.quiet
      apply (Quiet.refl replica).setFill
      apply follows_of_phase (mem_of_get found)
        (not_done created fun _ same => by cases same)
      exact Or.inl rfl
    · cases taken
      exact .quiet (settleWith_quiet index fill _)
  · cases taken

theorem readDevice_effect {device : Option CredentialDocument}
    {assertedAt : Int}
    (taken : replica.readDevice index device assertedAt = some next) :
    replica.Effect next := by
  obtain ⟨fill, found, taken⟩ := bind_eq_some_iff.mp taken
  split at taken
  · rename_i reading
    split at taken
    · cases taken
      apply Effect.quiet
      apply (Quiet.refl replica).setFill
      apply follows_of_phase (mem_of_get found)
        (not_done reading fun _ same => by cases same)
      right
      rw [reading]
      rfl
    · cases taken
      exact .quiet (settleWith_quiet index fill _)
  · cases taken

theorem verified_effect {assertedAt publishedAt : Int}
    (taken : replica.verified tools index assertedAt publishedAt =
      some next) : replica.Effect next := by
  obtain ⟨fill, found, taken⟩ := bind_eq_some_iff.mp taken
  split at taken
  · rename_i readBegan fillStartedAt device verifying
    split at taken
    · simp only at taken
      split at taken
      · cases taken
        apply publish_effect (mem_of_get found)
        rw [verifying]
        rfl
      · cases taken
        apply Effect.quiet
        apply (Quiet.refl replica).setFill
        apply follows_of_phase (mem_of_get found)
          (not_done verifying fun _ same => by cases same)
        right
        rw [verifying]
        rfl
    · cases taken
      exact .quiet (settleWith_quiet index fill _)
  · cases taken

theorem resolved_effect {bus : Option CredentialBus} {routeExists : Bool}
    {publishedAt : Int}
    (taken : replica.resolved tools index bus routeExists publishedAt =
      some next) : replica.Effect next := by
  obtain ⟨fill, found, taken⟩ := bind_eq_some_iff.mp taken
  split at taken
  · rename_i readBegan fillStartedAt assignment resolving
    have began : fill.phase.readBegan = some readBegan := by
      rw [resolving]
      rfl
    split at taken
    · cases taken
      exact publish_effect (mem_of_get found) began _ _ _ _
    · cases taken
      exact publish_effect (mem_of_get found) began _ _ _ _
  · cases taken

theorem failFill_effect {error : FillError}
    (taken : replica.failFill index error = some next) :
    replica.Effect next := by
  obtain ⟨fill, _, taken⟩ := bind_eq_some_iff.mp taken
  obtain ⟨_, _, taken⟩ := bind_eq_some_iff.mp taken
  cases taken
  exact .quiet (settleWith_quiet index fill _)

theorem settle_effect (taken : replica.settle index = some next) :
    replica.Effect next := by
  obtain ⟨fill, _, taken⟩ := bind_eq_some_iff.mp taken
  split at taken
  · rename_i outcome settled
    cases taken
    apply Effect.quiet
    exact (Quiet.refl replica).setFill index (follows_of_settled settled)
  · cases taken

theorem act_effect {label : CredentialLabel}
    (taken : replica.act tools label = some next) : replica.Effect next := by
  cases label with
  | check deviceId secret now cachedAt createdAt joinedAt =>
    cases taken
    exact checkDeviceCredentials_effect _ _ _ _ _ _
  | wake => exact wake_effect taken
  | timeout => exact timeout_effect taken
  | recover => exact recover_effect taken
  | work => exact beginFill_effect taken
  | read => exact readDevice_effect taken
  | verified => exact verified_effect taken
  | resolved => exact resolved_effect taken
  | fail => exact failFill_effect taken
  | settle => exact settle_effect taken
  | invalidate deviceId =>
    cases taken
    exact .invalidates (some deviceId) rfl
  | listenerError =>
    cases taken
    exact .invalidates none rfl

end CredentialReplica

end Eki.Devices
