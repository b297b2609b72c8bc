import Eki.Devices.DeviceRateLimiter

/-!
# The rate budget of the fleet

In any run in which no transaction reads a clock behind the window it finds
stored, the tokens granted within a window stay within the limit, and a window
is replaced only when its span has elapsed.
-/

namespace Eki.Devices

open Transition Windows Tally
open Option (bind_eq_some_iff elim_some map_some toList_some)

namespace RateWorld

/-- No transaction reads a clock behind the stored window. -/
def readsAhead (world : RateWorld) : RateLabel → Bool
  | .transact replica =>
    ((world.limiters[replica]?).map Limiter.phase).all fun phase =>
      match phase with
      | .allocating now =>
        (world.stored.bind RateRecord.bucket).all fun bucket =>
          decide (bucket.startedAt ≤ now)
      | _ => true
  | _ => true

/-- The budget of every window, by its charges and by its span; every request is
let through on a token of its window; no window is replaced early. -/
structure Lawful (config : RateLimits) (world : RateWorld) : Prop where
  budget : ∀ start ∈ world.ledger.windows,
    world.ledger.within windowMs start ≤ config.limit
  charged : ∀ start, world.ledger.charged start ≤ config.limit
  spent : ∀ start,
    world.admissions.countP (fun admission => admission.start == start) ≤
      world.ledger.charged start
  kept : ∀ replacement ∈ world.replacements,
    replacement.bucket.startedAt + windowMs ≤ replacement.now

/-! ## Buckets -/

variable {bucket : RateBucket}

theorem bucket_spec {record : RateRecord}
    (formed : record.bucket = some bucket) : 0 ≤ bucket.count := by
  unfold RateRecord.bucket at formed
  split at formed
  · split at formed
    · rename_i checked
      cases formed
      rw [Bool.and_eq_true] at checked
      exact of_decide_eq_true checked.2
    · cases formed
  · cases formed

theorem bucket_record (positive : 0 ≤ bucket.count)
    (safe : bucket.count ≤ 9007199254740991) :
    bucket.record.bucket = some bucket := by
  have checked : (isSafeInteger bucket.count &&
      decide (bucket.count ≥ 0)) = true := by
    rw [Bool.and_eq_true]
    refine ⟨?_, decide_eq_true positive⟩
    unfold isSafeInteger
    apply decide_eq_true
    omega
  exact if_pos checked

variable {now : Int}

variable {existing : Option RateRecord}

/-- The window of a transaction: the stored one while it lasts, or a new one
once it has elapsed. -/
theorem currentBucket_cases
    (ahead : ∀ bucket, existing.bind RateRecord.bucket = some bucket →
      bucket.startedAt ≤ now) :
    (existing.bind RateRecord.bucket = some (currentBucket existing now) ∧
      (currentBucket existing now).startedAt ≤ now ∧
      now < (currentBucket existing now).startedAt + windowMs) ∨
    (currentBucket existing now = { startedAt := now, count := 0 } ∧
      ∀ bucket, existing.bind RateRecord.bucket = some bucket →
        bucket.startedAt + windowMs ≤ now) := by
  unfold currentBucket validBucket
  cases formed : existing.bind RateRecord.bucket with
  | none =>
    right
    refine ⟨rfl, ?_⟩
    intro bucket found
    cases found
  | some bucket =>
    have earlier := ahead bucket formed
    rw [Option.filter_some, if_pos (decide_eq_true earlier)]
    simp only
    split
    · rename_i elapsed
      right
      refine ⟨rfl, ?_⟩
      intro other found
      cases found
      omega
    · left
      refine ⟨rfl, earlier, ?_⟩
      omega

/-! ## The invariant -/

/-- The tokens of a window that a replica holds or is about to. -/
def held (start : Int) (limiter : Limiter) : Nat :=
  (limiter.lease.elim 0 fun lease =>
    if lease.expiresAt - windowMs = start then lease.remaining else 0) +
  match limiter.phase with
  | .reserved _ decision =>
    if decision.next.startedAt = start then decision.granted else 0
  | _ => 0

structure Sound (config : RateLimits) (world : RateWorld) : Prop where
  kept : world.ledger.Kept windowMs
  current : world.ledger.windows.head? =
    (world.stored.bind RateRecord.bucket).map RateBucket.startedAt
  counted : ∀ bucket, world.stored.bind RateRecord.bucket = some bucket →
    (world.ledger.charged bucket.startedAt : Int) ≤ bucket.count
  budget : ∀ start, world.ledger.charged start ≤ config.limit
  spent : ∀ start,
    world.admissions.countP (fun admission => admission.start == start) +
      total (held start) world.limiters ≤ world.ledger.charged start
  replaced : ∀ replacement ∈ world.replacements,
    replacement.bucket.startedAt + windowMs ≤ replacement.now

namespace Sound

variable {config : RateLimits} {world next : RateWorld}

theorem toLawful (sound : world.Sound config) : world.Lawful config := by
  refine ⟨?_, sound.budget, ?_, sound.replaced⟩
  · intro start opened
    exact (sound.kept.within_le opened).trans (sound.budget start)
  · intro start
    exact (Nat.le_add_right _ _).trans (sound.spent start)

theorem start (replicas : Nat) (stored : Option RateRecord) :
    (RateWorld.start replicas stored).Sound config := by
  have uncharged (start : Int) :
      (RateWorld.start replicas stored).ledger.charged start = 0 := rfl
  refine ⟨⟨?_, ?_, ?_⟩, ?_, ?_, ?_, ?_, ?_⟩
  · unfold RateWorld.start
    cases stored.bind RateRecord.bucket with
    | none => exact List.Pairwise.nil
    | some bucket => exact List.pairwise_singleton _ _
  · rintro charge ⟨⟩
  · rintro charge ⟨⟩
  · unfold RateWorld.start
    cases stored.bind RateRecord.bucket with
    | none | some => rfl
  · intro bucket formed
    rw [uncharged]
    cases record : stored with
    | none =>
      rw [record] at formed
      cases formed
    | some record' =>
      rw [record] at formed
      exact bucket_spec formed
  · intro start
    rw [uncharged]
    exact Nat.zero_le _
  · intro start
    rw [uncharged]
    have idle : total (held start) (List.replicate replicas { }) = 0 := by
      rw [total, List.map_replicate, List.sum_replicate]
      exact Nat.mul_zero replicas
    exact (congrArg (0 + ·) idle).le
  · rintro replacement ⟨⟩

theorem held_idle (limiter : Limiter) (start : Int) :
    held start { limiter with phase := .idle } ≤ held start limiter :=
  Nat.add_le_add_left (Nat.zero_le _) _

theorem held_evicted (limiter : Limiter) (start : Int) :
    held start { limiter with lease := none } ≤ held start limiter :=
  Nat.add_le_add_right (Nat.zero_le _) _

variable {limiter : Limiter}

variable {decision : TokenReservationDecision}

theorem held_answered (reserved : limiter.phase = .reserved now decision)
    (start : Int) :
    (limiter.answer now decision).2.toList.countP
        (fun admission => admission.start == start) +
      held start (limiter.answer now decision).1 ≤ held start limiter := by
  have idle := held_idle limiter start
  unfold Limiter.answer
  simp only
  split
  · exact (Nat.zero_add _).le.trans idle
  · split
    · exact (Nat.zero_add _).le.trans idle
    · unfold held
      rw [reserved]
      simp only [toList_some, List.countP_singleton, beq_iff_eq,
        elim_some, Int.add_sub_cancel]
      split <;> omega

theorem held_consumed (idle : limiter.phase = .idle) (now start : Int) :
    (limiter.consume now).2.toList.countP
        (fun admission => admission.start == start) +
      held start (limiter.consume now).1 ≤ held start limiter := by
  unfold Limiter.consume
  split
  · rename_i lease usable
    obtain ⟨found, live⟩ := Option.filter_eq_some_iff.mp usable
    rw [Bool.and_eq_true, decide_eq_true_iff, decide_eq_true_iff] at live
    unfold held
    rw [idle, found]
    simp only [toList_some, List.countP_singleton, beq_iff_eq, elim_some]
    split <;> omega
  · exact Nat.zero_le _

variable {replica : Nat}

theorem settles (sound : world.Sound config)
    (found : world.limiters[replica]? = some limiter) (settled : Limiter)
    (admission : Option Admission) (spends : ∀ start,
      admission.toList.countP (fun admission => admission.start == start) +
        held start settled ≤ held start limiter) :
    ((world.setLimiter replica settled).letThrough admission).Sound config := by
  refine ⟨sound.kept, sound.current, sound.counted, sound.budget, ?_,
    sound.replaced⟩
  intro start
  have before := sound.spent start
  have moved := total_set (held start) settled found
  have within := spends start
  unfold setLimiter letThrough
  rw [List.countP_append]
  simp only
  omega

structure Charging (world : RateWorld) (now : Int) (ledger : Ledger)
    (bucket : RateBucket) : Prop where
  kept : ledger.Kept windowMs
  charges : ledger.charges = world.ledger.charges
  current : ledger.windows.head? = some bucket.startedAt
  counted : (world.ledger.charged bucket.startedAt : Int) ≤ bucket.count
  positive : 0 ≤ bucket.count
  inside : bucket.startedAt ≤ now ∧ now < bucket.startedAt + windowMs
  elapsed : ∀ other, world.stored.bind RateRecord.bucket = some other →
    other ≠ bucket → other.startedAt + windowMs ≤ now

theorem charged_eq_zero (sound : world.Sound config) {start : Int}
    (unopened : start ∉ world.ledger.windows) :
    world.ledger.charged start = 0 := by
  apply List.sum_eq_zero
  rintro _ listed
  obtain ⟨charge, member, rfl⟩ := List.mem_map.mp listed
  apply if_neg
  intro same
  apply unopened
  rw [← same]
  exact sound.kept.opened charge member

theorem charging (sound : world.Sound config)
    (ahead : ∀ bucket, world.stored.bind RateRecord.bucket = some bucket →
      bucket.startedAt ≤ now) :
    Charging world now
      (if (world.stored.bind RateRecord.bucket) !=
          some (currentBucket world.stored now) then
        world.ledger.opened (currentBucket world.stored now).startedAt
      else world.ledger)
      (currentBucket world.stored now) := by
  have current := sound.current
  rcases currentBucket_cases ahead with ⟨stored, inside⟩ | ⟨fresh, elapsed⟩
  · rw [if_neg (by simp [stored])]
    rw [stored] at current
    refine ⟨sound.kept, rfl, current, sound.counted _ stored, ?_, inside, ?_⟩
    · obtain ⟨record, found, formed⟩ := bind_eq_some_iff.mp stored
      exact bucket_spec formed
    · intro other found different
      rw [stored] at found
      exact absurd (Option.some.inj found).symm different
  · have replaces : world.stored.bind RateRecord.bucket ≠
        some { startedAt := now, count := 0 } := by
      intro same
      have passed := elapsed _ same
      unfold windowMs at passed
      simp only at passed
      omega
    have passed : ∀ older ∈ world.ledger.windows, older + windowMs ≤ now := by
      intro older member
      cases formed : world.stored.bind RateRecord.bucket with
      | none =>
        rw [formed] at current
        rw [List.head?_eq_none_iff.mp current] at member
        cases member
      | some bucket =>
        rw [formed] at current
        have last := elapsed bucket formed
        obtain ⟨rest, windows⟩ := List.head?_eq_some_iff.mp current
        have spaced := sound.kept.spaced
        rw [windows] at member spaced
        rcases List.mem_cons.mp member with same | before
        · rw [same]
          exact last
        · have order := (List.pairwise_cons.mp spaced).1 older before
          unfold windowMs at *
          omega
    have unopened : now ∉ world.ledger.windows := by
      intro opened
      have before := passed now opened
      unfold windowMs at before
      omega
    rw [fresh, if_pos (by simpa using replaces)]
    refine ⟨sound.kept.opens passed, rfl, rfl, ?_, Int.le_refl _, ?_, ?_⟩
    · rw [sound.charged_eq_zero unopened]
      exact Int.le_refl _
    · unfold windowMs
      simp only
      omega
    · intro other found _
      exact elapsed other found

theorem granted_le {limit requested : Nat}
    (grants : 0 < (reserveRateLimitTokens existing now limit requested).granted) :
    (currentBucket existing now).count +
      (reserveRateLimitTokens existing now limit requested).granted ≤
        limit := by
  unfold reserveRateLimitTokens at grants ⊢
  simp only at grants ⊢
  omega

section

variable (sound : world.Sound config)
  (found : world.limiters[replica]? = some limiter)
  (allocating : limiter.phase = .allocating now)
  (ahead : ∀ bucket, world.stored.bind RateRecord.bucket = some bucket →
    bucket.startedAt ≤ now)

include sound found allocating ahead

theorem commits (decided : reserveRateLimitTokens world.stored now config.limit
      config.leaseSize = decision) (grants : 0 < decision.granted) :
    ((world.commit now decision).setLimiter replica
      { limiter with phase := .reserved now decision }).Sound config := by
  have charging := sound.charging ahead
  have fits : (currentBucket world.stored now).count + decision.granted ≤
      config.limit := by
    rw [← decided] at grants ⊢
    exact granted_le grants
  have next : decision.next =
      { startedAt := (currentBucket world.stored now).startedAt
        count := (currentBucket world.stored now).count +
          decision.granted } := by
    rw [← decided]
    rfl
  have formed : (some decision.next.record).bind RateRecord.bucket =
      some decision.next := by
    apply bucket_record
    · rw [next]
      exact Int.add_nonneg charging.positive (Int.natCast_nonneg _)
    · have safe := config.limit_safe
      rw [next]
      simp only
      omega
  unfold commit setLimiter
  simp only
  generalize (if (world.stored.bind RateRecord.bucket) !=
      some (currentBucket world.stored now) then
    world.ledger.opened (currentBucket world.stored now).startedAt
    else world.ledger) = ledger at charging ⊢
  have charged (start : Int) : (ledger.charge
      { start := decision.next.startedAt
        time := now
        amount := decision.granted }).charged start =
      (if decision.next.startedAt = start then decision.granted else 0) +
        world.ledger.charged start := by
    rw [Ledger.charged_charge]
    unfold Ledger.charged
    rw [charging.charges]
  have start_eq : decision.next.startedAt =
      (currentBucket world.stored now).startedAt := by
    rw [next]
  refine ⟨charging.kept.charges ?_ ?_, ?_, ?_, ?_, ?_, ?_⟩
  · rw [start_eq]
    exact List.mem_of_mem_head? charging.current
  · rw [start_eq]
    exact charging.inside
  · simp only
    rw [formed, map_some, start_eq]
    exact charging.current
  · intro bucket stored
    have same : bucket = decision.next :=
      (Option.some.inj (formed.symm.trans stored)).symm
    have counted := charging.counted
    rw [same]
    simp only
    rw [charged, if_pos rfl, start_eq, next]
    simp only
    omega
  · intro start
    have budget := sound.budget start
    have counted := charging.counted
    simp only
    rw [charged]
    split
    · rename_i same
      rw [start_eq] at same
      rw [same] at counted
      omega
    · omega
  · intro start
    have spent := sound.spent start
    have moved := total_set (held start)
      { limiter with phase := .reserved now decision } found
    have holds : held start { limiter with phase := .reserved now decision } =
        held start limiter +
          if decision.next.startedAt = start then decision.granted else 0 := by
      unfold held
      rw [allocating]
      rfl
    simp only
    rw [charged]
    omega
  · intro replacement member
    rcases List.mem_append.mp member with replaced | before
    · obtain ⟨bucket, filtered, same⟩ :=
        Option.map_eq_some_iff.mp (Option.mem_toList.mp replaced)
      obtain ⟨stored, different⟩ := Option.filter_eq_some_iff.mp filtered
      rw [← same]
      exact charging.elapsed bucket stored (bne_iff_ne.mp different)
    · exact sound.replaced replacement before

theorem transacts :
    (world.transact config replica limiter now).Sound config := by
  unfold transact
  simp only
  split
  · rename_i grants
    exact sound.commits found allocating ahead rfl grants
  · apply sound.settles found { limiter with phase := .idle } none
    intro start
    exact (Nat.zero_add _).le.trans (held_idle limiter start)

end

theorem step {label : RateLabel} (sound : world.Sound config)
    (ahead : world.readsAhead label = true)
    (taken : RateWorld.step config world label = some next) :
    next.Sound config := by
  cases label with
  | consume replica now =>
    obtain ⟨limiter, found, taken⟩ := bind_eq_some_iff.mp taken
    obtain ⟨_, idle, taken⟩ := bind_eq_some_iff.mp taken
    cases taken
    apply sound.settles found
    exact held_consumed (by simpa using idle) now
  | abort replica cached =>
    obtain ⟨limiter, found, taken⟩ := bind_eq_some_iff.mp taken
    split at taken
    · obtain ⟨_, _, taken⟩ := bind_eq_some_iff.mp taken
      cases taken
      apply sound.settles found { limiter with phase := .idle } none
      intro start
      exact (Nat.zero_add _).le.trans (held_idle limiter start)
    · cases taken
  | transact replica =>
    obtain ⟨limiter, found, taken⟩ := bind_eq_some_iff.mp taken
    split at taken
    · rename_i now allocating
      cases taken
      apply sound.transacts found allocating
      intro bucket stored
      unfold readsAhead at ahead
      simp only [found, map_some, Option.all_some, allocating, stored] at ahead
      exact of_decide_eq_true ahead
    · cases taken
  | resend replica =>
    obtain ⟨limiter, found, taken⟩ := bind_eq_some_iff.mp taken
    split at taken
    · rename_i now decision reserved
      cases taken
      apply sound.settles found
        { limiter with phase := .allocating now } none
      intro start
      exact (Nat.zero_add _).le.trans (held_idle limiter start)
    · cases taken
  | answer replica =>
    obtain ⟨limiter, found, taken⟩ := bind_eq_some_iff.mp taken
    split at taken
    · rename_i now decision reserved
      cases taken
      exact sound.settles found _ _ (held_answered reserved)
    · cases taken
  | fail replica =>
    obtain ⟨limiter, found, taken⟩ := bind_eq_some_iff.mp taken
    cases taken
    apply sound.settles found { limiter with phase := .idle } none
    intro start
    exact (Nat.zero_add _).le.trans (held_idle limiter start)
  | evict replica =>
    obtain ⟨limiter, found, taken⟩ := bind_eq_some_iff.mp taken
    cases taken
    apply sound.settles found { limiter with lease := none } none
    intro start
    exact (Nat.zero_add _).le.trans (held_evicted limiter start)
  | restart replica =>
    obtain ⟨limiter, found, taken⟩ := bind_eq_some_iff.mp taken
    cases taken
    apply sound.settles found { } none
    intro start
    exact Nat.zero_le _

end Sound

end RateWorld

/-- **The rate budget holds** in every run in which no transaction reads a clock
behind the window it finds stored. -/
theorem rate_budget_holds (config : RateLimits) (replicas : Nat)
    (stored : Option RateRecord) {last : RateWorld}
    (steps : System.Steps (RateWorld.step config)
      (fun world label => world.readsAhead label = true)
      (.start replicas stored) last) :
    last.Lawful config := by
  have sound : last.Sound config := by
    apply steps.invariant (RateWorld.Sound.start replicas stored)
    intro world label next holds ahead taken
    exact holds.step ahead taken
  exact sound.toLawful

/-- The budget holds for any clock readings. -/
def RateBudgetHolds (config : RateLimits) : Prop :=
  ∀ (replicas : Nat) (stored : Option RateRecord) (last : RateWorld),
    System.Steps (RateWorld.step config) (fun _ _ => True)
      (.start replicas stored) last →
    last.Lawful config

def twoTokens : RateLimits where
  limit := 2
  leaseSize := 2
  limit_pos := Nat.two_pos
  limit_safe := Nat.le_of_ble_eq_true rfl
  leaseSize_pos := Nat.two_pos
  leaseSize_le := Nat.le_refl 2

def takesWindow (replica : Nat) (now : Int) : List RateLabel :=
  [.consume replica now, .transact replica, .answer replica,
    .consume replica now]

/-- Two replicas, one window after the other. -/
theorem rate_budget_holds_twice :
    ∃ last : RateWorld, last.admissions.length = 4 ∧
      last.replacements.length = 1 ∧ last.Lawful twoTokens := by
  have decided :
      ((RateWorld.step twoTokens).run
        (fun world label => world.readsAhead label) (.start 2 none)
        (takesWindow 0 1000 ++ takesWindow 1 61000)).any
        (fun last => last.admissions.length == 4 &&
          last.replacements.length == 1) = true := by
    decide +kernel
  obtain ⟨last, steps, ends⟩ := System.exists_of_run decided
  rw [Bool.and_eq_true, beq_iff_eq, beq_iff_eq] at ends
  exact ⟨last, ends.1, ends.2, rate_budget_holds twoTokens _ _ steps⟩

/-- A clock one millisecond behind refills the budget. -/
theorem clock_behind_refills : ¬ RateBudgetHolds twoTokens := by
  intro holds
  have decided :
      ((RateWorld.step twoTokens).run (fun _ _ => true) (.start 2 none)
        (takesWindow 0 1000 ++ takesWindow 1 999)).any
        (fun last => last.ledger.windows.any fun start =>
          decide (last.ledger.within windowMs start > 2)) = true := by
    decide +kernel
  obtain ⟨last, steps, ends⟩ := System.exists_of_run decided
  obtain ⟨start, opened, spent⟩ := List.any_eq_true.mp ends
  have budget := (holds _ _ last (steps.mono fun _ _ _ => trivial)).budget
    start opened
  have spent := of_decide_eq_true spent
  unfold twoTokens at budget
  simp only at budget
  omega

end Eki.Devices
