import Eki.Devices.CredentialSteps

/-!
# The credential cache honours revocation

A flight that is still current began its registry read after every invalidation
of its device, and only such a flight publishes.  An invalidation deletes what
its device has in the caches, so that every later entry, and every answer from
an entry, goes back to a later registry read.
-/

namespace Eki.Devices

open Insertion Transition
open List (mem_cons)
open OrderedMap (get_keep get_of_get_delete get_of_get_keep
  get_of_get_setWithin)

namespace CredentialReplica

variable {tools : CredentialTools} {replica next middle : CredentialReplica}

structure HonoursRevocation (replica : CredentialReplica) : Prop where
  published : ∀ publication ∈ replica.publications,
    ∀ invalidation ∈ replica.invalidations,
    invalidation.covers publication.deviceId = true →
    invalidation.step < publication.step →
      invalidation.step < publication.readBegan
  cached : ∀ deviceId digest publication,
    replica.Holds (credentialCacheKey deviceId digest) publication →
      publication ∈ replica.publications ∧ publication.deviceId = deviceId ∧
      ∀ invalidation ∈ replica.invalidations,
        invalidation.covers deviceId = true →
          invalidation.step < publication.readBegan
  answered : ∀ answer ∈ replica.answers, ∀ publication,
    answer.source.publication = some publication →
      publication ∈ replica.publications ∧
      publication.deviceId = answer.deviceId ∧
      ∀ invalidation ∈ replica.invalidations,
        invalidation.covers answer.deviceId = true →
        invalidation.step < answer.step →
          invalidation.step < publication.readBegan
  verified : ∀ key publication,
    replica.credentialCache.get key = some publication →
      publication.entry.assignment.isSome = true

/-- A verified entry goes by an invalidation, by what a later fill of its own
credential published, or as the oldest of a full cache, for another verified
one. -/
def KeepsVerified (replica next : CredentialReplica) : Prop :=
  ∀ key publication, replica.credentialCache.get key = some publication →
    next.credentialCache.get key ≠ some publication →
    (∃ invalidation,
      next.invalidations = invalidation :: replica.invalidations ∧
      invalidation.deletes key = true) ∨
    ∃ published, next.publications = published :: replica.publications ∧
      (published.key = key ∨
        published.entry.assignment.isSome = true ∧
        replica.credentialCache.get published.key = none ∧
        maxCredentialCacheEntries ≤ replica.credentialCache.size ∧
        replica.credentialCache.oldest = some key)

/-! ## The invariant -/

structure Sound (replica : CredentialReplica) : Prop where
  invalidated : ∀ invalidation ∈ replica.invalidations,
    invalidation.step < replica.time
  publishedBefore : ∀ publication ∈ replica.publications,
    publication.step < replica.time
  answeredBefore : ∀ answer ∈ replica.answers, answer.step < replica.time
  left : ∀ fill ∈ replica.fills, fill.held = false → Done fill
  /-- A current flight reads what no invalidation so far has overtaken. -/
  fresh : ∀ fill ∈ replica.fills, fill.current = true →
    ∀ began, fill.phase.readBegan = some began →
    ∀ invalidation ∈ replica.invalidations,
      invalidation.covers fill.deviceId = true → invalidation.step < began
  published : ∀ publication ∈ replica.publications,
    ∀ invalidation ∈ replica.invalidations,
    invalidation.covers publication.deviceId = true →
    invalidation.step < publication.step →
      invalidation.step < publication.readBegan
  held : ∀ key publication, replica.Holds key publication →
    publication ∈ replica.publications ∧ publication.key = key ∧
    ∀ invalidation ∈ replica.invalidations,
      invalidation.covers publication.deviceId = true →
        invalidation.step < publication.step
  answered : ∀ answer ∈ replica.answers, ∀ publication,
    answer.source.publication = some publication →
      publication ∈ replica.publications ∧
      publication.deviceId = answer.deviceId ∧
      ∀ invalidation ∈ replica.invalidations,
        invalidation.covers answer.deviceId = true →
        invalidation.step < answer.step →
          invalidation.step < publication.readBegan
  verified : ∀ key publication,
    replica.credentialCache.get key = some publication →
      publication.entry.assignment.isSome = true

variable {deviceId : String} {publication : Publication}

variable {digest : Digest}

theorem deviceId_of_held
    (keyed : publication.key = credentialCacheKey deviceId digest) :
    publication.deviceId = deviceId :=
  deviceId_of_key keyed

namespace Sound

theorem cached (sound : replica.Sound)
    (held : replica.Holds (credentialCacheKey deviceId digest) publication) :
    publication ∈ replica.publications ∧ publication.deviceId = deviceId ∧
      ∀ invalidation ∈ replica.invalidations,
        invalidation.covers deviceId = true →
          invalidation.step < publication.readBegan := by
  obtain ⟨member, keyed, later⟩ := sound.held _ publication held
  have device := deviceId_of_held keyed
  refine ⟨member, device, ?_⟩
  intro invalidation recorded covered
  rw [← device] at covered
  exact sound.published publication member invalidation recorded covered
    (later invalidation recorded covered)

theorem honoursRevocation (sound : replica.Sound) :
    replica.HonoursRevocation where
  published := sound.published
  cached := fun _ _ _ held => sound.cached held
  answered := sound.answered
  verified := sound.verified

theorem start : CredentialReplica.start.Sound := by
  constructor
  · intro invalidation member
    cases member
  · intro publication member
    cases member
  · intro answer member
    cases member
  · intro fill member
    cases member
  · intro fill member
    cases member
  · intro publication member
    cases member
  · intro key publication held
    cases held with
    | inl stored | inr stored => cases stored
  · intro answer member
    cases member
  · intro key publication stored
    cases stored

/-- The clock moves on. -/
theorem tick (sound : replica.Sound) :
    Sound { replica with time := replica.time + 1 } where
  invalidated := fun invalidation member =>
    Nat.lt_succ_of_lt (sound.invalidated invalidation member)
  publishedBefore := fun publication member =>
    Nat.lt_succ_of_lt (sound.publishedBefore publication member)
  answeredBefore := fun answer member =>
    Nat.lt_succ_of_lt (sound.answeredBefore answer member)
  left := sound.left
  fresh := sound.fresh
  published := sound.published
  held := sound.held
  answered := sound.answered
  verified := sound.verified

variable {fill : Fill}

theorem left_of_follows (sound : replica.Sound)
    (follows : replica.Follows fill) (gone : fill.held = false) :
    Done fill := by
  cases follows.left gone with
  | inl done => exact done
  | inr before =>
    obtain ⟨old, member, left, working⟩ := before
    exact absurd (sound.left old member left) working

theorem fresh_of_follows (sound : replica.Sound)
    (follows : replica.Follows fill) (current : fill.current = true)
    {began : Nat} (reading : fill.phase.readBegan = some began)
    {invalidation : Invalidation}
    (member : invalidation ∈ replica.invalidations)
    (covered : invalidation.covers fill.deviceId = true) :
    invalidation.step < began := by
  cases follows.began began reading current with
  | inl now =>
    rw [now]
    exact sound.invalidated invalidation member
  | inr before =>
    obtain ⟨old, stored, oldCurrent, same, oldReading⟩ := before
    rw [← same] at covered
    exact sound.fresh old stored oldCurrent began oldReading invalidation
      member covered

theorem quiet (sound : replica.Sound) (quiet : replica.Quiet next) :
    next.Sound := by
  have holds {key : String} {publication : Publication}
      (held : next.Holds key publication) : replica.Holds key publication := by
    unfold Holds at held
    rw [quiet.credentialCache, quiet.rejectedCredentialCache] at held
    exact held
  constructor
  · rw [quiet.invalidations, quiet.time]
    exact sound.invalidated
  · rw [quiet.publications, quiet.time]
    exact sound.publishedBefore
  · rw [quiet.answers, quiet.time]
    exact sound.answeredBefore
  · intro fill member
    exact sound.left_of_follows (quiet.fills fill member)
  · rw [quiet.invalidations]
    intro fill member current began reading invalidation recorded covered
    exact sound.fresh_of_follows (quiet.fills fill member) current reading
      recorded covered
  · rw [quiet.publications, quiet.invalidations]
    exact sound.published
  · rw [quiet.publications, quiet.invalidations]
    intro key publication held
    exact sound.held key publication (holds held)
  · rw [quiet.publications, quiet.invalidations, quiet.answers]
    exact sound.answered
  · rw [quiet.credentialCache]
    exact sound.verified

theorem record (sound : replica.Sound) (result : DeviceCredentialResult)
    {source : AnswerSource}
    (held : ∀ publication, source.publication = some publication →
      ∃ digest, replica.Holds (credentialCacheKey deviceId digest)
        publication) :
    Sound { replica.record deviceId result source with
      time := replica.time + 1 } := by
  have later := sound.tick
  refine ⟨later.invalidated, later.publishedBefore, ?_, sound.left,
    sound.fresh, sound.published, sound.held, ?_, sound.verified⟩
  · intro answer member
    cases mem_cons.mp member with
    | inl added =>
      rw [added]
      exact Nat.lt_succ_self replica.time
    | inr before => exact later.answeredBefore answer before
  · intro answer member publication cached
    cases mem_cons.mp member with
    | inl added =>
      rw [added] at cached ⊢
      obtain ⟨digest, stored⟩ := held publication cached
      obtain ⟨published, device, fresh⟩ := sound.cached stored
      refine ⟨published, device, ?_⟩
      intro invalidation recorded covered _
      exact fresh invalidation recorded covered
    | inr before => exact sound.answered answer before publication cached

variable {key : String} {value : Publication}

theorem holds_cacheCredential
    (held : (replica.cacheCredential value.key value).Holds key publication) :
    (key = value.key ∧ publication = value) ∨
      replica.Holds key publication := by
  unfold cacheCredential at held
  split at held
  · cases held with
    | inl stored =>
      cases get_of_get_setWithin stored with
      | inl same => exact Or.inl same
      | inr before => exact Or.inr (Or.inl before)
    | inr stored =>
      exact Or.inr (Or.inr (get_of_get_delete stored))
  · cases held with
    | inl stored =>
      exact Or.inr (Or.inl (get_of_get_delete stored))
    | inr stored =>
      cases get_of_get_setWithin stored with
      | inl same => exact Or.inl same
      | inr before => exact Or.inr (Or.inr before)

theorem verified_cacheCredential (sound : replica.Sound)
    (stored : (replica.cacheCredential value.key value).credentialCache.get
      key = some publication) :
    publication.entry.assignment.isSome = true := by
  unfold cacheCredential at stored
  split at stored
  · rename_i assigned
    cases get_of_get_setWithin stored with
    | inl same =>
      rw [same.2]
      exact assigned
    | inr before => exact sound.verified key publication before
  · exact sound.verified key publication
      (get_of_get_delete stored)

end Sound

theorem cacheCredential_frame (replica : CredentialReplica) (key : String)
    (value : Publication) :
    ∃ credentialCache rejectedCredentialCache,
      replica.cacheCredential key value =
        { replica with credentialCache, rejectedCredentialCache } := by
  unfold cacheCredential
  split
  · exact ⟨_, _, rfl⟩
  · exact ⟨_, _, rfl⟩

namespace Sound

variable {fill : Fill}

theorem publish (sound : replica.Sound) (member : fill ∈ replica.fills)
    (current : fill.current = true)
    (device : publication.deviceId = fill.deviceId)
    (began : fill.phase.readBegan = some publication.readBegan)
    (step : publication.step = replica.time)
    (quiet : (replica.cacheCredential publication.key publication).Quiet
      middle) :
    Sound { middle with
      publications := publication :: middle.publications
      time := middle.time + 1 } := by
  have holds {key : String} {other : Publication}
      (held : middle.Holds key other) :
      (key = publication.key ∧ other = publication) ∨
        replica.Holds key other := by
    unfold Holds at held
    rw [quiet.credentialCache, quiet.rejectedCredentialCache] at held
    exact holds_cacheCredential held
  have stays {key : String} {other : Publication}
      (stored : middle.credentialCache.get key = some other) :
      other.entry.assignment.isSome = true := by
    rw [quiet.credentialCache] at stored
    exact sound.verified_cacheCredential stored
  obtain ⟨credentialCache, rejectedCredentialCache, framed⟩ :=
    cacheCredential_frame replica publication.key publication
  rw [framed] at quiet
  have follows (other : Fill) (stored : other ∈ middle.fills) :
      replica.Follows other :=
    ⟨(quiet.fills other stored).left, (quiet.fills other stored).began⟩
  have later := sound.tick
  constructor
  · simp only [quiet.invalidations, quiet.time]
    exact later.invalidated
  · simp only [quiet.publications, quiet.time]
    intro other published
    cases mem_cons.mp published with
    | inl added =>
      rw [added, step]
      exact Nat.lt_succ_self replica.time
    | inr before => exact later.publishedBefore other before
  · simp only [quiet.answers, quiet.time]
    exact later.answeredBefore
  · intro other stored
    exact sound.left_of_follows (follows other stored)
  · simp only [quiet.invalidations]
    intro other stored otherCurrent otherBegan reading invalidation recorded
      covered
    exact sound.fresh_of_follows (follows other stored) otherCurrent reading
      recorded covered
  · simp only [quiet.invalidations, quiet.publications]
    intro other published invalidation recorded covered earlier
    cases mem_cons.mp published with
    | inl added =>
      rw [added] at covered ⊢
      rw [device] at covered
      exact sound.fresh fill member current publication.readBegan began
        invalidation recorded covered
    | inr before =>
      exact sound.published other before invalidation recorded covered
        earlier
  · simp only [quiet.invalidations, quiet.publications]
    intro key other held
    cases holds held with
    | inl added =>
      rw [added.2]
      refine ⟨List.mem_cons_self, added.1.symm, ?_⟩
      intro invalidation recorded _
      rw [step]
      exact sound.invalidated invalidation recorded
    | inr before =>
      obtain ⟨published, keyed, after⟩ := sound.held key other before
      exact ⟨List.mem_cons_of_mem _ published, keyed, after⟩
  · simp only [quiet.invalidations, quiet.publications, quiet.answers]
    intro answer given other cached
    obtain ⟨published, same, fresh⟩ :=
      sound.answered answer given other cached
    exact ⟨List.mem_cons_of_mem _ published, same, fresh⟩
  · intro key other stored
    exact stays stored

variable {scope : Option String}

theorem holds_invalidate {key : String}
    (held : (replica.invalidate scope).Holds key publication) :
    replica.Holds key publication ∧
      Invalidation.deletes { scope, step := replica.time } key = false := by
  cases held with
  | inl stored =>
    have kept := get_of_get_keep stored
    exact ⟨Or.inl kept.1, Bool.not_eq_true' _ ▸ kept.2⟩
  | inr stored =>
    have kept := get_of_get_keep stored
    exact ⟨Or.inr kept.1, Bool.not_eq_true' _ ▸ kept.2⟩

theorem flight_invalidate (member : fill ∈ (replica.invalidate scope).fills) :
    ∃ old ∈ replica.fills, fill.held = old.held ∧ fill.phase = old.phase ∧
      (fill.current = true → fill = old ∧
        (old.held = true → Invalidation.covers
          { scope, step := replica.time } old.deviceId = false)) := by
  obtain ⟨old, stored, same⟩ := List.mem_map.mp member
  refine ⟨old, stored, ?_⟩
  split at same
  · rw [← same]
    refine ⟨rfl, rfl, ?_⟩
    intro current
    cases current
  · rename_i spared
    rw [← same]
    refine ⟨rfl, rfl, ?_⟩
    intro _
    refine ⟨rfl, ?_⟩
    intro held
    rw [held, Bool.true_and, Bool.not_eq_true] at spared
    exact spared

theorem invalidate (sound : replica.Sound) (scope : Option String) :
    Sound { replica.invalidate scope with time := replica.time + 1 } := by
  have later := sound.tick
  constructor
  · intro invalidation member
    cases mem_cons.mp member with
    | inl added =>
      rw [added]
      exact Nat.lt_succ_self replica.time
    | inr before => exact later.invalidated invalidation before
  · exact later.publishedBefore
  · exact later.answeredBefore
  · intro fill member gone
    obtain ⟨old, stored, held, phase, _⟩ := flight_invalidate member
    obtain ⟨outcome, settled⟩ := sound.left old stored (held.symm.trans gone)
    exact ⟨outcome, phase.trans settled⟩
  · intro fill member current began reading invalidation recorded covered
    obtain ⟨old, stored, _, _, spared⟩ := flight_invalidate member
    obtain ⟨same, uncovered⟩ := spared current
    rw [same] at current reading covered
    cases mem_cons.mp recorded with
    | inl added =>
      rw [added] at covered
      cases held : old.held with
      | true =>
        rw [uncovered held] at covered
        cases covered
      | false =>
        -- A flight that left its lane reads no more.
        obtain ⟨outcome, settled⟩ := sound.left old stored held
        rw [settled] at reading
        cases reading
    | inr before =>
      exact sound.fresh old stored current began reading invalidation before
        covered
  · intro publication published invalidation recorded covered earlier
    cases mem_cons.mp recorded with
    | inl added =>
      rw [added] at earlier
      have before := sound.publishedBefore publication published
      exact absurd earlier (Nat.lt_asymm before)
    | inr before =>
      exact sound.published publication published invalidation before
        covered earlier
  · intro key publication held
    obtain ⟨stored, stays⟩ := holds_invalidate held
    obtain ⟨published, keyed, after⟩ := sound.held key publication stored
    refine ⟨published, keyed, ?_⟩
    intro invalidation recorded covered
    cases mem_cons.mp recorded with
    | inl added =>
      rw [added] at covered
      have deleted := Invalidation.deletes_of_covers covered
        publication.entry.secretDigest
      change Invalidation.deletes _ publication.key = true at deleted
      rw [keyed, stays] at deleted
      cases deleted
    | inr before => exact after invalidation before covered
  · intro answer given publication cached
    obtain ⟨published, same, fresh⟩ :=
      sound.answered answer given publication cached
    refine ⟨published, same, ?_⟩
    intro invalidation recorded covered earlier
    cases mem_cons.mp recorded with
    | inl added =>
      rw [added] at earlier
      have before := sound.answeredBefore answer given
      exact absurd earlier (Nat.lt_asymm before)
    | inr before => exact fresh invalidation before covered earlier
  · intro key publication stored
    exact sound.verified key publication (get_of_get_keep stored).1

theorem step (sound : replica.Sound) {label : CredentialLabel}
    (taken : CredentialReplica.step tools replica label = some next) :
    next.Sound := by
  obtain ⟨middle, acted, ticked⟩ := Option.map_eq_some_iff.mp taken
  rw [← ticked]
  cases act_effect acted with
  | quiet quiet => exact (sound.quiet quiet).tick
  | answers before quiet deviceId result source held recorded =>
    rw [recorded]
    apply (sound.quiet quiet).record
    intro publication cached
    obtain ⟨digest, stored⟩ := held publication cached
    refine ⟨digest, ?_⟩
    unfold Holds
    rw [quiet.credentialCache, quiet.rejectedCredentialCache]
    exact stored
  | publishes fill member current publication device began step before quiet
      recorded =>
      rw [recorded]
      exact sound.publish member current device began step quiet
  | invalidates scope invalidated =>
    rw [invalidated]
    exact sound.invalidate scope

end Sound

/-! ## Verified entries -/

theorem get_cacheCredential {key : String} {value : Publication}
    (stored : replica.credentialCache.get key = some publication)
    (changed : (replica.cacheCredential value.key value).credentialCache.get
      key ≠ some publication) :
    value.key = key ∨ value.entry.assignment.isSome = true ∧
      replica.credentialCache.get value.key = none ∧
      maxCredentialCacheEntries ≤ replica.credentialCache.size ∧
      replica.credentialCache.oldest = some key := by
  by_cases same : key = value.key
  · exact Or.inl same.symm
  · unfold cacheCredential at changed
    split at changed
    · rename_i assigned
      cases OrderedMap.get_setWithin_of_ne same with
      | inl kept => exact absurd (kept.trans stored) changed
      | inr evicted => exact Or.inr ⟨assigned, evicted⟩
    · refine absurd ?_ changed
      exact (OrderedMap.get_delete_of_ne same).trans stored

theorem keepsVerified_of_step {label : CredentialLabel}
    (taken : step tools replica label = some next) :
    replica.KeepsVerified next := by
  obtain ⟨middle, acted, ticked⟩ := Option.map_eq_some_iff.mp taken
  rw [← ticked]
  intro key publication stored changed
  cases act_effect acted with
  | quiet quiet =>
    refine absurd ?_ changed
    rw [quiet.credentialCache]
    exact stored
  | answers before quiet deviceId result source _ recorded =>
    refine absurd ?_ changed
    rw [recorded]
    unfold CredentialReplica.record
    rw [quiet.credentialCache]
    exact stored
  | publishes fill member current published device began step before quiet
      recorded =>
      obtain ⟨_, _, framed⟩ :=
        cacheCredential_frame replica published.key published
      right
      refine ⟨published, ?_, ?_⟩
      · rw [recorded]
        simp only
        rw [quiet.publications, framed]
      · apply get_cacheCredential stored
        rw [recorded] at changed
        simp only at changed
        rw [quiet.credentialCache] at changed
        exact changed
  | invalidates scope invalidated =>
    left
    refine ⟨{ scope, step := replica.time }, ?_, ?_⟩
    · rw [invalidated]
      rfl
    · cases deleted : Invalidation.deletes
          { scope, step := replica.time } key with
      | true => rfl
      | false =>
        refine absurd ?_ changed
        rw [invalidated]
        unfold invalidate
        simp only [get_keep]
        rw [if_pos]
        · exact stored
        · simpa [invalidateFills] using deleted

end CredentialReplica

open CredentialReplica

/-- From an empty replica on, whatever comes between reads, fills and answers,
no entry goes back to a read that an invalidation has overtaken, and only
verified entries take the place of verified entries. -/
theorem credential_cache_honours_revocation (tools : CredentialTools)
    (last : CredentialReplica)
    (steps : System.Steps (step tools) (fun _ _ => True) .start last) :
    last.HonoursRevocation ∧
      ∀ label next, step tools last label = some next →
        last.KeepsVerified next := by
  have sound : last.Sound := by
    apply steps.invariant Sound.start
    intro state label next sound _ taken
    exact sound.step taken
  refine ⟨sound.honoursRevocation, ?_⟩
  intro label next taken
  exact keepsVerified_of_step taken

/-! ## A run with every kind of answer -/

def sampleTools : CredentialTools where
  sha256 secret :=
    if secret = "secret" then
      [43, 184, 13, 83, 123, 29, 163, 227, 139, 211, 3, 97, 170, 133, 86, 134,
        189, 224, 234, 205, 113, 98, 254, 246, 162, 95, 233, 123, 245, 39, 162,
        91]
    else []
  scrypt secret salt :=
    if secret = "secret" ∧ salt = "000102030405060708090a0b0c0d0e0f" then
      [90, 70, 92, 246, 6, 163, 57, 122, 205, 41, 110, 232, 174, 79, 12, 240,
        197, 52, 105, 173, 191, 212, 205, 183, 17, 143, 3, 8, 175, 73, 167, 121,
        103, 123, 150, 74, 156, 96, 74, 228, 114, 214, 115, 232, 108, 147, 168,
        81, 245, 173, 97, 243, 106, 39, 201, 22, 132, 180, 154, 229, 208, 81,
        142, 106]
    else []

def sampleDevice : CredentialDocument where
  busId := "bus-1"
  routeId := "route-1"
  secretHash := some ("000102030405060708090a0b0c0d0e0f:" ++
    "5a465cf606a3397acd296ee8ae4f0cf0c53469adbfd4cdb7118f0308af49a779" ++
    "677b964a9c604ae472d673e86c93a851f5ad61f36a27c91684b49ae5d0518e6a")

def checkAt (fill : Nat) (now : Int) : List CredentialLabel :=
  [.check "device-1" "secret" now now now now, .work fill now now]

/-- A read that an invalidation overtakes, a fill, a cached answer, and a stale
one where the refill finds the key derivation busy. -/
def revokedRun : List CredentialLabel :=
  checkAt 0 0 ++
    [.invalidate "device-1", .read 0 (some sampleDevice) 1, .settle 0,
      .wake 0 1, .recover 0 1] ++
  checkAt 1 10 ++
    [.read 1 (some sampleDevice) 11, .verified 1 11 11,
      .resolved 1 (some { assignedRoutes := some ["route-1"] }) true 12,
      .settle 1, .wake 1 12, .check "device-1" "secret" 100 100 100 100] ++
  checkAt 2 70000 ++
    [.read 2 (some sampleDevice) 70001, .fail 2 .workCapacity, .settle 2,
      .wake 2 70001, .recover 2 70001]

theorem credential_cache_honours_revocation_overtaken :
    ∃ last : CredentialReplica,
      last.invalidations.length = 1 ∧ last.publications.length = 1 ∧
      (last.answers.filterMap fun answer =>
        answer.source.publication).length = 2 ∧
      last.HonoursRevocation ∧
      ∀ label next, step sampleTools last label = some next →
        last.KeepsVerified next := by
  have decided :
      ((step sampleTools).run (fun _ _ => true) .start revokedRun).any
        (fun last => last.invalidations.length == 1 &&
          (last.publications.length == 1 &&
          (last.answers.filterMap fun answer =>
            answer.source.publication).length == 2)) = true := by
    decide +kernel
  obtain ⟨last, steps, ends⟩ := System.exists_of_run decided
  rw [Bool.and_eq_true, Bool.and_eq_true, beq_iff_eq, beq_iff_eq,
    beq_iff_eq] at ends
  exact ⟨last, ends.1, ends.2.1, ends.2.2,
    credential_cache_honours_revocation sampleTools last
      (steps.mono fun _ _ _ => trivial)⟩

end Eki.Devices
