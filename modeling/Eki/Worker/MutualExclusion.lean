import Eki.Worker.Renewal

/-!
# One leader at a time

A fence passes only until a deadline that its coordinator computes from a
monotonic clock; another process takes the lease by its own wall clock.  The
allowances leave room between the two as long as no wall clock gains too much
on the monotonic clocks and no coordinator stalls too long between the clock
readings that make up one deadline.
-/

namespace Eki.Worker

open Versioned Transition

/-- At any moment the wall clocks differ by at most the allowance. -/
def Clocks.WithinSkew {Owner : Type} (clocks : Clocks Owner) : Prop :=
  ∀ first second time,
    clocks.wall first time ≤ clocks.wall second time + workerClockSkewMs

def Clocks.GainsAtMost {Owner : Type} (clocks : Clocks Owner) (gain : ℚ) :
    Prop :=
  ∀ ownerId earlier later, earlier ≤ later →
    later ≤ earlier + leaseDurationMs →
    clocks.wall ownerId later ≤
      clocks.wall ownerId earlier + (later - earlier) + gain

variable {Owner : Type}

/-- A coordinator that sets a deadline read the age of its request at most so
long before. -/
def Election.prompt (clocks : Clocks Owner) (stall : ℚ)
    (election : Election Owner) : Event Owner → Bool
  | .move ownerId .time =>
    match (election.coordinators ownerId).renewal with
    | .measured _ _ first _ =>
      decide (clocks.monotonic ownerId election.time - first ≤ stall)
    | _ => true
  | _ => true

def Election.Holds (election : Election Owner) (clocks : Clocks Owner)
    (ownerId : Owner) : Prop :=
  ∃ fence, (election.coordinators ownerId).fence = some fence ∧
    fence.passes (clocks.monotonic ownerId election.time)

def Election.Promise (election : Election Owner) (limit : ℚ)
    (ownerId : Owner) (generation : Nat) (deadline : ℚ) : Prop :=
  election.time < deadline →
    election.lease.value.ownerId = some ownerId ∧
      election.lease.value.generation = generation ∧ deadline ≤ limit

variable {ownerId : Owner} {generation : Nat} {deadline : ℚ}

theorem Election.Promise.earlier {election : Election Owner} {limit : ℚ}
    {sooner : ℚ} (promise : election.Promise limit ownerId generation deadline)
    (le : sooner ≤ deadline) :
    election.Promise limit ownerId generation sooner := by
  intro running
  obtain ⟨owner, same, within⟩ := promise (lt_of_lt_of_le running le)
  exact ⟨owner, same, le_trans le within⟩

/-- The generation a renewal acquired and the latest deadline, in real time,
that it can still lead to. -/
def Renewal.claim (boot stall : ℚ) : Renewal Owner → Option (Nat × ℚ)
  | .answered _ started (some acquired) => some (acquired.generation,
      started + (leaseDurationMs - 2 * workerClockSkewMs) + boot + stall)
  | .aged _ acquired first budget =>
    some (acquired.generation, first + budget + boot + stall)
  | .measured _ acquired first remaining =>
    some (acquired.generation, first + remaining + boot + stall)
  | .timed acquired deadline => some (acquired.generation, deadline + boot)
  | .activating _ acquired deadline =>
    some (acquired.generation, deadline + boot)
  | _ => none

/-- What a coordinator holds or may come to hold is promised to it. -/
structure Coordinator.Backed (coordinator : Coordinator Owner)
    (promise : Nat → ℚ → Prop) (boot stall : ℚ) : Prop where
  fence : ∀ fence, coordinator.fence = some fence →
    promise fence.generation (fence.deadline + boot)
  claim : ∀ generation deadline,
    coordinator.renewal.claim boot stall = some (generation, deadline) →
      promise generation deadline

namespace Coordinator

variable {coordinator next : Coordinator Owner} {ownerId : Owner}
  {monotonic wall boot stall : ℚ} {move : Move} {promise : Nat → ℚ → Prop}

theorem Backed.mono {weaker : Nat → ℚ → Prop}
    (backed : coordinator.Backed promise boot stall)
    (implies : ∀ generation deadline,
      promise generation deadline → weaker generation deadline) :
    coordinator.Backed weaker boot stall where
  fence := fun fence held => implies _ _ (backed.fence fence held)
  claim := fun generation deadline claimed =>
    implies _ _ (backed.claim generation deadline claimed)

/-- The readings between which a coordinator must not stall. -/
def Prompt (coordinator : Coordinator Owner) (monotonic stall : ℚ) : Prop :=
  ∀ attempt acquired first remaining,
    coordinator.renewal = .measured attempt acquired first remaining →
      monotonic - first ≤ stall
/-- A coordinator that kept at most its fence and claims nothing new. -/
theorem Backed.keep (backed : coordinator.Backed promise boot stall)
    (fence : next.fence = coordinator.fence ∨ next.fence = none)
    (claim : next.renewal.claim boot stall = none) :
    next.Backed promise boot stall where
  fence := by
    intro held isHeld
    rcases fence with kept | noFence
    · rw [kept] at isHeld
      exact backed.fence held isHeld
    · rw [noFence] at isHeld
      cases isHeld
  claim := by
    intro generation deadline claimed
    rw [claim] at claimed
    cases claimed

variable [DecidableEq Owner]

/-- A move turns one claim into another that reaches no further, as long as a
deadline is set promptly. -/
theorem backed_of_moved (sound : coordinator.Sound monotonic)
    (backed : coordinator.Backed promise boot stall)
    (earlier : ∀ generation deadline sooner, sooner ≤ deadline →
      promise generation deadline → promise generation sooner)
    (prompt : move = .time → coordinator.Prompt monotonic stall)
    (moved : Moved coordinator ownerId monotonic wall move next) :
    next.Backed promise boot stall := by
  have claims {generation : Nat} {deadline sooner : ℚ}
      (claimed : coordinator.renewal.claim boot stall =
        some (generation, deadline)) (le : sooner ≤ deadline) :
      promise generation sooner :=
    earlier _ _ _ le (backed.claim _ _ claimed)
  cases moved with
  | begin | refuse | send | finish => exact backed.keep (.inl rfl) rfl
  | age phase =>
    refine ⟨backed.fence, ?_⟩
    intro generation deadline claimed
    cases claimed
    apply claims (by rw [phase]; rfl)
    linarith
  | measure phase =>
    refine ⟨backed.fence, ?_⟩
    intro generation deadline claimed
    cases claimed
    rename_i attempt acquired first budget
    have within := min_le_left budget
      (acquired.expiresAt - wall - workerClockSkewMs)
    apply claims (by rw [phase]; rfl)
    linarith
  | time phase held same =>
    refine ⟨backed.fence, ?_⟩
    intro generation deadline claimed
    cases claimed
    apply claims (by rw [phase]; rfl)
    linarith [prompt rfl _ _ _ _ phase]
  | replace phase after noFence renewal shutdown =>
    constructor
    · intro fence held
      rw [noFence] at held
      cases held
    · intro generation deadline claimed
      rw [renewal] at claimed
      cases claimed
      apply claims (by rw [phase]; rfl)
      linarith [prompt rfl _ _ _ _ phase]
  | extend phase held =>
    constructor
    · intro fence isHeld
      cases isHeld
      obtain ⟨own, ownHeld, same⟩ := sound.timed_fence _ _ phase
      rw [held] at ownHeld
      cases ownHeld
      apply claims (by rw [phase, Renewal.claim, ← same])
      exact le_refl _
    · intro generation deadline claimed
      cases claimed
  | activate phase running =>
    constructor
    · intro fence isHeld
      cases isHeld
      apply claims (by rw [phase]; rfl)
      exact le_refl _
    · intro generation deadline claimed
      cases claimed
  | abandon => exact backed.keep (.inr rfl) rfl
  | expire | stop =>
    constructor
    · intro fence held
      cases held
    · exact backed.claim
  | drained stopped stays releasing => exact ⟨backed.fence, backed.claim⟩

end Coordinator

variable [DecidableEq Owner] {clocks : Clocks Owner} {stall gain : ℚ}
  {election next : Election Owner}

/-- The latest moment, in real time, at which a fence can pass that rests on a
lease whose owner read its wall clock at the given moment. -/
def lastDeadline (reading stall : ℚ) : ℚ :=
  reading + (leaseDurationMs - 2 * workerClockSkewMs) + stall

/-- The invariant of all processes.  `reading` is when the owner of the lease
read its wall clock. -/
structure Election.Granted (clocks : Clocks Owner) (stall : ℚ)
    (election : Election Owner) (reading : ℚ) : Prop extends
    Election.Followed clocks election where
  reading_le : reading ≤ election.updateTime
  expiry : ∀ ownerId, election.lease.value.ownerId = some ownerId →
    election.lease.value.expiresAt =
      clocks.wall ownerId reading + leaseDurationMs
  backed : ∀ ownerId, (election.coordinators ownerId).Backed
    (election.Promise (lastDeadline reading stall) ownerId)
    (clocks.boot ownerId) stall

namespace Election.Granted

variable {reading : ℚ}

variable {at_ : ℚ}

theorem unlapsed (granted : election.Granted clocks stall reading)
    (withinSkew : clocks.WithinSkew) (gains : clocks.GainsAtMost gain)
    (slack : gain + stall ≤ 2 * workerClockSkewMs) (other : Owner)
    (promise : election.Promise
      (lastDeadline reading stall) ownerId
      generation deadline) (running : election.time < deadline)
    (afterWrite : election.updateTime ≤ at_) (past : at_ ≤ election.time) :
    clocks.wall ownerId at_ < election.lease.value.expiresAt ∧
      clocks.wall other at_ <
        election.lease.value.expiresAt + workerClockSkewMs := by
  obtain ⟨owner, -, within⟩ := promise running
  have expiry := granted.expiry ownerId owner
  have order := granted.reading_le
  unfold lastDeadline at within
  have gainNonneg : 0 ≤ gain := by
    have still := gains ownerId 0 0 (le_refl _)
      (by norm_num [leaseDurationMs])
    linarith
  have gained := gains ownerId reading at_ (by linarith) (by linarith)
  have skew := withinSkew other ownerId at_
  constructor <;> linarith

variable {writer : Owner} {document : Lease Owner}

section

variable (granted : election.Granted clocks stall reading)
  (withinSkew : clocks.WithinSkew) (gains : clocks.GainsAtMost gain)
  (slack : gain + stall ≤ 2 * workerClockSkewMs)
  (afterWrite : election.updateTime ≤ at_) (past : at_ ≤ election.time)
  (acquired : election.lease.value.acquire writer (clocks.wall writer at_) =
    some document)

include granted withinSkew gains slack afterWrite past acquired

theorem promise_of_write (promise : election.Promise
      (lastDeadline reading stall) ownerId
      generation deadline) :
    (election.written document).Promise (lastDeadline at_ stall) ownerId
      generation deadline := by
  intro running
  obtain ⟨owner, same, within⟩ := promise running
  obtain ⟨ownLive, otherLive⟩ := granted.unlapsed withinSkew gains slack
    writer promise running afterWrite past
  by_cases self : writer = ownerId
  · subst self
    refine ⟨Lease.ownerId_of_acquire acquired, ?_, ?_⟩
    · exact (Lease.generation_of_renew acquired owner ownLive).trans same
    · have order := granted.reading_le
      unfold lastDeadline at within ⊢
      linarith
  · have foreign : election.lease.value.ownerId ≠ some writer := by
      rw [owner]
      intro equal
      exact self (Option.some.inj equal).symm
    have expired := Lease.expired_of_acquire acquired foreign
    linarith

theorem backed_of_write (ownerId : Owner) :
    (election.coordinators ownerId).Backed
      ((election.written document).Promise (lastDeadline at_ stall) ownerId)
      (clocks.boot ownerId) stall := by
  apply (granted.backed ownerId).mono
  intro generation deadline promise
  exact granted.promise_of_write withinSkew gains slack afterWrite past
    acquired promise

theorem written :
    (election.written document).Granted clocks stall at_ where
  toFollowed := granted.toFollowed.write document
  reading_le := past
  expiry := by
    intro ownerId owner
    have named := Lease.ownerId_of_acquire acquired
    rw [show document.ownerId = some ownerId from owner] at named
    cases named
    exact Lease.expiresAt_of_acquire acquired
  backed := granted.backed_of_write withinSkew gains slack afterWrite past
    acquired

end

variable (granted : election.Granted clocks stall reading)

include granted

theorem forsake (ownerId : Owner) :
    (election.forsake ownerId).Granted clocks stall reading := by
  have followed := granted.toFollowed.forsake ownerId
  unfold Election.forsake at followed ⊢
  split
  · rename_i phase
    rw [phase] at followed
    exact ⟨followed, granted.reading_le, granted.expiry, granted.backed⟩
  · exact granted

theorem backed_put {coordinator : Coordinator Owner}
    (backed : coordinator.Backed
      (election.Promise (lastDeadline reading stall) ownerId)
      (clocks.boot ownerId) stall) (other : Owner) :
    ((election.put ownerId coordinator).coordinators other).Backed
      (election.Promise (lastDeadline reading stall) other)
      (clocks.boot other) stall :=
  forall_put (fun other coordinator => coordinator.Backed
    (election.Promise (lastDeadline reading stall) other)
    (clocks.boot other) stall) backed granted.backed other

theorem backed_of_release {releaser : Owner}
    (releasing : (election.coordinators releaser).shutdown = .releasing)
    (owner : election.lease.value.ownerId = some releaser) (ownerId : Owner) :
    (election.coordinators ownerId).Backed
      ((election.written document).Promise (lastDeadline reading stall)
        ownerId)
      (clocks.boot ownerId) stall := by
  by_cases self : ownerId = releaser
  · subst self
    have sound := granted.sound ownerId
    have idle := sound.releasing_idle releasing
    have noFence := sound.stopped_fence
      (by simp [Coordinator.stopped, releasing])
    constructor
    · intro fence held
      rw [noFence] at held
      cases held
    · intro generation deadline claimed
      rw [idle] at claimed
      cases claimed
  · apply (granted.backed ownerId).mono
    intro generation deadline promise running
    obtain ⟨named, -, -⟩ := promise running
    rw [owner] at named
    exact absurd (Option.some.inj named).symm self

end Election.Granted

theorem Election.granted_empty (clocks : Clocks Owner) (stall : ℚ) :
    Election.Granted clocks stall {} 0 where
  toFollowed := followed_empty clocks
  reading_le := le_refl _
  expiry := by
    intro ownerId owner
    cases owner
  backed := by
    intro ownerId
    constructor
    · intro fence held
      cases held
    · intro generation deadline claimed
      cases claimed

omit [DecidableEq Owner] in
/-- A coordinator that sets its deadline read the age of its request shortly
before. -/
theorem Election.prompt_coordinator
    (prompt : election.prompt clocks stall (.move ownerId .time) = true) :
    (election.coordinators ownerId).Prompt
      (clocks.monotonic ownerId election.time) stall := by
  intro attempt acquired first remaining phase
  unfold Election.prompt at prompt
  simp only [phase, decide_eq_true_eq] at prompt
  exact prompt

theorem Election.granted_of_stepped {reading : ℚ} {event : Event Owner}
    (granted : election.Granted clocks stall reading)
    (withinSkew : clocks.WithinSkew) (gains : clocks.GainsAtMost gain)
    (slack : gain + stall ≤ 2 * workerClockSkewMs)
    (prompt : election.prompt clocks stall event = true)
    (stepped : Stepped clocks election event next) :
    ∃ reading, next.Granted clocks stall reading := by
  have followed := followed_of_stepped granted.toFollowed stepped
  cases stepped with
  | tick forward =>
    refine ⟨reading, followed, granted.reading_le, granted.expiry, ?_⟩
    intro ownerId
    apply (granted.backed ownerId).mono
    intro generation deadline promise running
    apply promise
    exact lt_of_le_of_lt (le_add_of_nonneg_right forward) running
  | move moved =>
    rename_i ownerId move coordinator
    refine ⟨reading, followed, granted.reading_le, granted.expiry, ?_⟩
    apply granted.backed_put
    apply Coordinator.backed_of_moved (granted.sound ownerId)
      (granted.backed ownerId) _ _ moved
    · intro generation deadline sooner le promise
      exact promise.earlier le
    · rintro rfl
      exact prompt_coordinator prompt
  | read request waits =>
    refine ⟨reading, followed, granted.reading_le, granted.expiry, ?_⟩
    apply granted.backed_put
    refine Coordinator.Backed.keep (granted.backed _) (Or.inl rfl) ?_
    rcases waits with rfl | rfl <;> rfl
  | retry request =>
    rename_i ownerId attempt started
    have forsaken := granted.forsake ownerId
    refine ⟨reading, followed, forsaken.reading_le, forsaken.expiry, ?_⟩
    apply forsaken.backed_put
    refine Coordinator.Backed.keep (forsaken.backed ownerId) (Or.inl ?_) rfl
    rw [forsake_coordinators]
  | fail request =>
    rename_i ownerId attempt started
    have forsaken := granted.forsake ownerId
    refine ⟨reading, followed, forsaken.reading_le, forsaken.expiry, ?_⟩
    apply forsaken.backed_put
    exact Coordinator.Backed.keep (forsaken.backed ownerId) (Or.inr rfl) rfl
  | commit phase current =>
    rename_i ownerId attempt started commit
    have computed := granted.tracks ownerId
    rw [phase] at computed
    obtain ⟨at_, afterWrite, afterStart, past, acquired⟩ :=
      computed.of_same current
    have after := granted.written withinSkew gains slack afterWrite past
      acquired
    refine ⟨at_, followed, after.reading_le, after.expiry, ?_⟩
    apply after.backed_put
    constructor
    · exact (after.backed ownerId).fence
    · intro generation deadline claimed running
      cases claimed
      refine ⟨Lease.ownerId_of_acquire acquired, rfl, ?_⟩
      unfold lastDeadline
      linarith
  | settle member current =>
    obtain ⟨ownerId, computed⟩ := granted.dispatched _ member
    obtain ⟨at_, afterWrite, -, past, acquired⟩ :=
      computed.of_same current
    exact ⟨at_, granted.written withinSkew gains slack afterWrite past
      acquired⟩
  | release releasing owner =>
    rename_i ownerId
    refine ⟨reading, followed, ?_, ?_, ?_⟩
    · exact le_trans granted.reading_le granted.updateTime_le
    · intro other named
      cases named
    · apply forall_put (fun other coordinator => coordinator.Backed
        (Election.Promise _ _ other) (clocks.boot other) stall)
      · exact ⟨(granted.backed_of_release releasing owner ownerId).fence,
          (granted.backed_of_release releasing owner ownerId).claim⟩
      · exact granted.backed_of_release releasing owner
  | leave releasing foreign =>
    refine ⟨reading, followed, granted.reading_le, granted.expiry, ?_⟩
    apply granted.backed_put
    exact ⟨(granted.backed _).fence, (granted.backed _).claim⟩

/-- What mutual exclusion asks of a moment and of what follows it. -/
structure Election.Exclusive (clocks : Clocks Owner)
    (election : Election Owner) : Prop where
  one_holder : ∀ first second, election.Holds clocks first →
    election.Holds clocks second → first = second
  /-- A lease write that takes the lease from somebody else, fills a vacancy or
  follows a lapse raises the generation. -/
  generation_lt : ∀ event next, election.step clocks event = some next →
    ∀ ownerId, next.lease.value.ownerId = some ownerId →
      next.lease.version ≠ election.lease.version →
      (election.lease.value.ownerId ≠ some ownerId ∨
        election.lease.value.expiresAt ≤
          next.lease.value.expiresAt - leaseDurationMs) →
      election.lease.value.generation < next.lease.value.generation
  raises : ∀ later,
    System.Steps (Worker.election clocks) (fun _ _ => True) election later →
      election.Raises later

theorem Election.Granted.owner_of_holds {reading : ℚ}
    (granted : election.Granted clocks stall reading)
    (holds : election.Holds clocks ownerId) :
    election.lease.value.ownerId = some ownerId := by
  obtain ⟨fence, held, passes⟩ := holds
  have promise := (granted.backed ownerId).fence fence held
  refine (promise ?_).1
  unfold Fence.passes Clocks.monotonic at passes
  linarith

theorem lease_exclusive (withinSkew : clocks.WithinSkew)
    (gains : clocks.GainsAtMost gain)
    (slack : gain + stall ≤ 2 * workerClockSkewMs)
    (run : System.Steps (Worker.election clocks)
      (fun election event => election.prompt clocks stall event = true)
      {} election) :
    election.Exclusive clocks := by
  have granted : ∃ reading, election.Granted clocks stall reading := by
    apply run.invariant ⟨0, Election.granted_empty clocks stall⟩
    rintro before event after ⟨reading, granted⟩ prompt taken
    exact Election.granted_of_stepped granted withinSkew gains slack prompt
      (Election.stepped_of_step taken)
  obtain ⟨reading, granted⟩ := granted
  constructor
  · intro first second firstHolds secondHolds
    have owner := granted.owner_of_holds firstHolds
    rw [granted.owner_of_holds secondHolds] at owner
    exact (Option.some.inj owner).symm
  · intro event next taken ownerId owner wrote vacant
    have rewritten := Election.rewritten_of_stepped granted.toFollowed
      (Election.stepped_of_step taken)
    exact rewritten.generation_lt owner wrote vacant
  · intro later run
    exact Election.raises_of_steps granted.toFollowed run

instance (election : Election Owner) (clocks : Clocks Owner)
    (ownerId : Owner) : Decidable (election.Holds clocks ownerId) :=
  decidable_of_iff
    ((election.coordinators ownerId).fence.any fun fence =>
      decide (fence.passes (clocks.monotonic ownerId election.time)))
    (by simp [Election.Holds, Option.any_eq_true])

def trueClocks : Clocks Bool where
  wall := fun _ time => 1000000 + time
  boot := fun _ => 0

def leapingClocks : Clocks Bool where
  wall := fun _ time =>
    if time < 1 then 1000000 + time else 1047000 + time
  boot := fun _ => 0

/-- A renewal up to the clock readings of its answer. -/
def request (ownerId : Bool) : List (Event Bool) :=
  [.move ownerId .begin, .read ownerId, .move ownerId .decide,
    .commit ownerId, .move ownerId .age, .move ownerId .measure]

def take (ownerId : Bool) : List (Event Bool) :=
  [.move ownerId .time, .move ownerId (.activate true)]

def after (clocks : Clocks Bool)
    (check : Election Bool → Event Bool → Bool) (events : List (Event Bool))
    (holds : Election Bool → Bool) : Bool :=
  (System.run (Worker.election clocks) check {} events).any holds

theorem exists_of_after {clocks : Clocks Bool}
    {check : Election Bool → Event Bool → Bool}
    {events : List (Event Bool)} {holds : Election Bool → Bool}
    (decided : after clocks check events holds = true) :
    ∃ election,
      System.Steps (Worker.election clocks)
        (fun election event => check election event = true) {} election ∧
      holds election = true :=
  System.exists_of_run decided

theorem trueClocks_withinSkew : trueClocks.WithinSkew := by
  intro first second time
  norm_num [trueClocks, workerClockSkewMs]

theorem trueClocks_gainsAtMost : trueClocks.GainsAtMost 0 := by
  intro ownerId earlier later _ _
  simp only [trueClocks]
  linarith

theorem lease_exclusive_true :
    ∃ election : Election Bool,
      election.Holds trueClocks true ∧ election.Exclusive trueClocks := by
  have decided : after trueClocks (Election.prompt trueClocks 0)
      (request true ++ take true)
      (fun election => decide (election.Holds trueClocks true)) = true := by
    decide +kernel
  obtain ⟨election, run, holds⟩ := exists_of_after decided
  exact ⟨election, of_decide_eq_true holds,
    lease_exclusive trueClocks_withinSkew trueClocks_gainsAtMost
      (by norm_num [workerClockSkewMs]) run⟩

/-- A coordinator stalls between two clock readings while another process
takes the lapsed lease. -/
def stalledRun : List (Event Bool) :=
  request true ++ [.tick 47000] ++ request false ++ take false ++ take true

/-- Both wall clocks leap while the first process still has its fence. -/
def leapingRun : List (Event Bool) :=
  request true ++ take true ++ [.tick 1] ++ request false ++ take false

/-- An orderly shutdown up to the release. -/
def shutdownRun : List (Event Bool) :=
  request true ++ take true ++ [.move true .stop, .move true .drained]

/-- Whatever the clocks and stalls, two processes never hold the lease
together, and every change of the owner raises the generation. -/
def ExcludesAlways : Prop :=
  ∀ (Owner : Type) [DecidableEq Owner] (clocks : Clocks Owner),
    clocks.WithinSkew → ∀ election,
    System.Steps (Worker.election clocks) (fun _ _ => True) {} election →
    (∀ first second, election.Holds clocks first →
      election.Holds clocks second → first = second) ∧
    ∀ event next, election.step clocks event = some next →
      election.lease.value.ownerId ≠ next.lease.value.ownerId →
        election.lease.value.generation < next.lease.value.generation

/-- True clocks and one stall, or prompt processes whose clocks leap together,
give two leaders; and a release changes the owner but not the generation. -/
theorem lease_not_always_exclusive :
    (∃ election,
      System.Steps (Worker.election trueClocks) (fun _ _ => True) {}
        election ∧
      election.Holds trueClocks true ∧ election.Holds trueClocks false) ∧
    (leapingClocks.WithinSkew ∧ ∃ election,
      System.Steps (Worker.election leapingClocks)
        (fun election event => election.prompt leapingClocks 0 event = true)
        {} election ∧
      election.Holds leapingClocks true ∧
      election.Holds leapingClocks false) ∧
    (∃ election next,
      System.Steps (Worker.election trueClocks) (fun _ _ => True) {}
        election ∧
      election.step trueClocks (.release true) = some next ∧
      election.lease.value.ownerId ≠ next.lease.value.ownerId ∧
      election.lease.value.generation = next.lease.value.generation) ∧
    ¬ ExcludesAlways := by
  have stalled : after trueClocks (fun _ _ => true) stalledRun
      (fun election => decide (election.Holds trueClocks true) &&
        decide (election.Holds trueClocks false)) = true := by
    decide +kernel
  have leaping : after leapingClocks (Election.prompt leapingClocks 0)
      leapingRun
      (fun election => decide (election.Holds leapingClocks true) &&
        decide (election.Holds leapingClocks false)) = true := by
    decide +kernel
  have releasing : after trueClocks (fun _ _ => true) shutdownRun
      (fun election =>
        (election.step trueClocks (.release true)).any fun next =>
          decide (election.lease.value.ownerId ≠ next.lease.value.ownerId) &&
            decide (election.lease.value.generation =
              next.lease.value.generation)) = true := by
    decide +kernel
  obtain ⟨both, run, holding⟩ := exists_of_after stalled
  obtain ⟨leapt, leapRun, leapHolding⟩ := exists_of_after leaping
  obtain ⟨stopped, stopRun, released⟩ := exists_of_after releasing
  obtain ⟨next, taken, changed⟩ := (Option.any_eq_true _ _).mp released
  simp only [Bool.and_eq_true, decide_eq_true_eq]
    at holding leapHolding changed
  have steps : System.Steps (Worker.election trueClocks)
      (fun _ _ => True) {} both :=
    run.mono fun _ _ _ => trivial
  have stopSteps : System.Steps (Worker.election trueClocks)
      (fun _ _ => True) {} stopped :=
    stopRun.mono fun _ _ _ => trivial
  refine ⟨⟨both, steps, holding⟩, ⟨?_, leapt, leapRun, leapHolding⟩,
    ⟨stopped, next, stopSteps, taken, changed⟩, ?_⟩
  · intro first second time
    norm_num [leapingClocks, workerClockSkewMs]
  · intro always
    have one := (always Bool trueClocks trueClocks_withinSkew both steps).1
    cases one true false holding.1 holding.2

end Eki.Worker
