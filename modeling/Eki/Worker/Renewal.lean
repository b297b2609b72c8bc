import Mathlib.Tactic.Linarith
import Eki.Worker.Lease

/-!
# What renewals do to the lease

Every move of a coordinator and every step of the election is inverted once.
From that: what a coordinator knows by itself, that a lease write which the
store still lets through was computed from the present lease, and how the
generation of the lease grows.  Nothing here depends on the clocks.
-/

namespace Eki.Worker

open Versioned Transition

variable {Owner : Type}

structure Coordinator.Sound (coordinator : Coordinator Owner)
    (monotonic : ℚ) : Prop where
  started_le : ∀ attempt started,
    coordinator.renewal.request = some (attempt, started) → started ≤ monotonic
  timed_fence : ∀ acquired deadline,
    coordinator.renewal = .timed acquired deadline →
      ∃ fence, coordinator.fence = some fence ∧
        fence.generation = acquired.generation
  stopped_fence : coordinator.stopped = true → coordinator.fence = none
  releasing_idle : coordinator.shutdown = .releasing →
    coordinator.renewal = .idle

namespace Coordinator

variable {coordinator next : Coordinator Owner} {ownerId : Owner}
  {monotonic wall : ℚ} {move : Move}

theorem Sound.later {later : ℚ} (sound : coordinator.Sound monotonic)
    (le : monotonic ≤ later) : coordinator.Sound later where
  started_le := fun attempt started request =>
    le_trans (sound.started_le attempt started request) le
  timed_fence := sound.timed_fence
  stopped_fence := sound.stopped_fence
  releasing_idle := sound.releasing_idle

variable [DecidableEq Owner]

/-- Everything one move can do. -/
inductive Moved (coordinator : Coordinator Owner) (ownerId : Owner)
    (monotonic wall : ℚ) : Move → Coordinator Owner → Prop where
  | begin (running : coordinator.stopped = false)
      (phase : coordinator.renewal = .idle) :
      Moved coordinator ownerId monotonic wall .begin
        { coordinator with
          renewal := .begun coordinator.transition monotonic }
  | refuse {attempt : Nat} {started : ℚ} {lease : Snapshot (Lease Owner)}
      (phase : coordinator.renewal = .read attempt started lease) :
      Moved coordinator ownerId monotonic wall .decide
        { coordinator with renewal := .answered attempt started none }
  | send {attempt : Nat} {started : ℚ} {lease : Snapshot (Lease Owner)}
      {document : Lease Owner}
      (phase : coordinator.renewal = .read attempt started lease)
      (acquired : lease.value.acquire ownerId wall = some document) :
      Moved coordinator ownerId monotonic wall .decide
        { coordinator with
          renewal := .sent attempt started ⟨lease.version, document⟩ }
  | age {attempt : Nat} {started : ℚ} {acquired : Lease Owner}
      (phase : coordinator.renewal =
        .answered attempt started (some acquired)) :
      Moved coordinator ownerId monotonic wall .age
        { coordinator with
          renewal := .aged attempt acquired monotonic
            (leaseDurationMs - 2 * workerClockSkewMs - (monotonic - started)) }
  | measure {attempt : Nat} {acquired : Lease Owner} {first budget : ℚ}
      (phase : coordinator.renewal = .aged attempt acquired first budget) :
      Moved coordinator ownerId monotonic wall .measure
        { coordinator with
          renewal := .measured attempt acquired first
            (min budget (acquired.expiresAt - wall - workerClockSkewMs)) }
  | time {attempt : Nat} {acquired : Lease Owner} {first remaining : ℚ}
      {fence : Fence}
      (phase : coordinator.renewal =
        .measured attempt acquired first remaining)
      (held : coordinator.fence = some fence)
      (same : fence.generation = acquired.generation) :
      Moved coordinator ownerId monotonic wall .time
        { coordinator with
          renewal := .timed acquired (monotonic + remaining) }
  | replace {attempt : Nat} {acquired : Lease Owner} {first remaining : ℚ}
      (phase : coordinator.renewal =
        .measured attempt acquired first remaining)
      (after : Coordinator Owner)
      (noFence : after.fence = none)
      (renewal : after.renewal =
        .activating attempt acquired (monotonic + remaining))
      (shutdown : after.shutdown = coordinator.shutdown) :
      Moved coordinator ownerId monotonic wall .time after
  | extend {acquired : Lease Owner} {deadline : ℚ} {fence : Fence}
      (phase : coordinator.renewal = .timed acquired deadline)
      (held : coordinator.fence = some fence) :
      Moved coordinator ownerId monotonic wall .extend
        { coordinator with
          fence := some { fence with deadline := deadline }
          expiryTimer := true
          renewal := .idle }
  | activate {attempt : Nat} {acquired : Lease Owner} {deadline : ℚ}
      (phase : coordinator.renewal = .activating attempt acquired deadline)
      (running : coordinator.stopped = false) :
      Moved coordinator ownerId monotonic wall (.activate true)
        { coordinator with
          fence := some ⟨acquired.generation, deadline⟩
          expiryTimer := true
          renewal := .idle }
  | finish (move : Move) :
      Moved coordinator ownerId monotonic wall move
        { coordinator with renewal := .idle }
  | abandon (move : Move) (busy : coordinator.renewal ≠ .idle) :
      Moved coordinator ownerId monotonic wall move coordinator.abandon
  | expire (awaiting : coordinator.synchronous = false) :
      Moved coordinator ownerId monotonic wall .expire
        { coordinator.stopWork with
          transition := coordinator.transition + 1 }
  | stop (awaiting : coordinator.synchronous = false) :
      Moved coordinator ownerId monotonic wall .stop
        { coordinator.stopWork with
          transition := coordinator.transition + 1
          shutdown := .stopping coordinator.fence.isSome }
  | drained {shutdown : Shutdown} (stopped : coordinator.stopped = true)
      (stays : shutdown ≠ .running)
      (releasing : shutdown = .releasing → coordinator.renewal = .idle) :
      Moved coordinator ownerId monotonic wall .drained
        { coordinator with shutdown := shutdown }

theorem moved_of_move
    (moved : coordinator.move ownerId monotonic wall move = some next) :
    Moved coordinator ownerId monotonic wall move next := by
  unfold Coordinator.move at moved
  cases move with
  | begin =>
    simp only at moved
    split at moved
    · cases moved
    · rename_i running
      split at moved
      · rename_i phase
        cases moved
        exact .begin (by simpa using running) phase
      · cases moved
  | decide =>
    simp only at moved
    split at moved
    · rename_i phase
      split at moved
      · cases moved
        exact .refuse phase
      · split at moved
        · cases moved
          exact .refuse phase
        · rename_i acquired
          cases moved
          exact .send phase acquired
    · cases moved
  | age =>
    simp only at moved
    split at moved
    · rename_i phase
      split at moved
      · cases moved
        exact .finish _
      · cases moved
        exact .abandon _ (by simp [phase])
    · rename_i phase
      cases moved
      exact .age phase
    · cases moved
  | measure =>
    simp only at moved
    split at moved
    · rename_i phase
      cases moved
      exact .measure phase
    · cases moved
  | time =>
    simp only at moved
    split at moved
    · rename_i phase
      split at moved
      · cases moved
        exact .finish _
      · split at moved
        · cases moved
          exact .abandon _ (by simp [phase])
        · split at moved
          · rename_i noFence
            cases moved
            exact .replace phase _ noFence rfl rfl
          · rename_i held
            split at moved
            · rename_i same
              cases moved
              exact .time phase held same
            · cases moved
              exact .replace phase _ rfl rfl rfl
    · cases moved
  | extend =>
    simp only at moved
    split at moved
    · rename_i phase held
      split at moved
      · cases moved
        exact .extend phase held
      · cases moved
        exact .abandon _ (by simp [phase])
    · cases moved
  | activate launched =>
    simp only at moved
    split at moved
    · rename_i phase
      split at moved
      · cases moved
        exact .finish _
      · rename_i admitted
        split at moved
        · rename_i launches
          subst launches
          cases moved
          refine .activate phase ?_
          simp only [superseded, Bool.or_eq_true, not_or] at admitted
          simpa using admitted.1.1.1
        · cases moved
          exact .abandon _ (by simp [phase])
    · cases moved
  | settled =>
    simp only at moved
    split at moved
    · cases moved
      exact .finish _
    · cases moved
  | expire =>
    simp only at moved
    split at moved
    · rename_i due
      cases moved
      simp only [Bool.and_eq_true, Bool.not_eq_true'] at due
      exact .expire due.2
    · cases moved
  | stop =>
    simp only at moved
    split at moved
    · cases moved
    · rename_i free
      cases moved
      simp only [Bool.or_eq_true, not_or] at free
      exact .stop (by simpa using free.2)
  | drained =>
    simp only at moved
    split at moved
    · rename_i releaseLease stopping
      have stopped : coordinator.stopped = true := by
        simp [stopped, stopping]
      split at moved
      · rename_i phase
        cases moved
        refine .drained stopped ?_ (fun _ => phase)
        split <;> simp
      · cases moved
        exact .drained stopped (by simp) (by simp)
    · cases moved

section

omit [DecidableEq Owner]

/-- A coordinator whose renewal awaits nothing and that keeps its fence, if it
keeps one, only while it runs. -/
theorem sound_of_over (settled : next.renewal.request = none)
    (untimed : ∀ acquired deadline, next.renewal ≠ .timed acquired deadline)
    (fence : next.stopped = true → next.fence = none)
    (idle : next.shutdown = .releasing → next.renewal = .idle) :
    next.Sound monotonic where
  started_le := by
    intro attempt started request
    rw [settled] at request
    cases request
  timed_fence := fun acquired deadline timed =>
    absurd timed (untimed acquired deadline)
  stopped_fence := fence
  releasing_idle := idle

theorem sound_of_abandon (sound : coordinator.Sound monotonic)
    (busy : coordinator.renewal ≠ .idle) :
    coordinator.abandon.Sound monotonic := by
  refine sound_of_over rfl (by simp [abandon]) (fun _ => rfl) ?_
  intro releasing
  exact absurd (sound.releasing_idle releasing) busy

variable {attempt : Nat} {started : ℚ}

theorem busy_of_request
    (request : coordinator.renewal.request = some (attempt, started)) :
    coordinator.renewal ≠ .idle := by
  intro idle
  rw [idle] at request
  cases request

theorem Sound.wait (sound : coordinator.Sound monotonic)
    {renewal : Renewal Owner}
    (request : coordinator.renewal.request = some (attempt, started))
    (same : renewal.request = some (attempt, started)) :
    Sound { coordinator with renewal := renewal } monotonic where
  started_le := by
    intro otherAttempt otherStarted awaiting
    rw [show renewal.request = _ from awaiting] at same
    cases same
    exact sound.started_le attempt started request
  timed_fence := by
    intro acquired deadline timed
    rw [show renewal = .timed acquired deadline from timed] at same
    cases same
  stopped_fence := sound.stopped_fence
  releasing_idle := fun releasing =>
    absurd (sound.releasing_idle releasing) (busy_of_request request)

theorem Sound.done (sound : coordinator.Sound monotonic)
    (releasing : coordinator.shutdown = .releasing) :
    Sound { coordinator with shutdown := .done } monotonic where
  started_le := sound.started_le
  timed_fence := sound.timed_fence
  stopped_fence := fun _ =>
    sound.stopped_fence (by simp [stopped, releasing])
  releasing_idle := by
    intro impossible
    cases impossible

end

theorem sound_of_moved (sound : coordinator.Sound monotonic)
    (moved : Moved coordinator ownerId monotonic wall move next) :
    next.Sound monotonic := by
  have notReleasing : coordinator.renewal ≠ .idle →
      coordinator.shutdown ≠ .releasing := fun busy releasing =>
    busy (sound.releasing_idle releasing)
  cases moved with
  | begin running phase =>
    constructor
    · intro attempt started request
      cases request
      exact le_refl _
    · intro acquired deadline timed
      cases timed
    · exact sound.stopped_fence
    · intro releasing
      have stopped : coordinator.stopped = true := by
        simp [stopped, show coordinator.shutdown = .releasing from releasing]
      rw [running] at stopped
      cases stopped
  | refuse phase | send phase acquired =>
    constructor
    · intro attempt started request
      cases request
      exact sound.started_le _ _ (by rw [phase]; rfl)
    · intro acquired deadline timed
      cases timed
    · exact sound.stopped_fence
    · exact fun releasing => absurd releasing (notReleasing (by simp [phase]))
  | age phase | measure phase =>
    refine sound_of_over rfl (by simp) (fun stopped => ?_) ?_
    · exact sound.stopped_fence stopped
    · exact fun releasing => absurd releasing (notReleasing (by simp [phase]))
  | time phase held same =>
    constructor
    · intro attempt started request
      cases request
    · intro acquired deadline timed
      cases timed
      exact ⟨_, held, same⟩
    · exact sound.stopped_fence
    · exact fun releasing => absurd releasing (notReleasing (by simp [phase]))
  | replace phase after noFence renewal shutdown =>
    apply sound_of_over
    · rw [renewal]
      rfl
    · simp [renewal]
    · exact fun _ => noFence
    · intro releasing
      rw [shutdown] at releasing
      exact absurd releasing (notReleasing (by simp [phase]))
  | extend phase held =>
    refine sound_of_over rfl (by simp) ?_ ?_
    · intro stopped
      rw [sound.stopped_fence stopped] at held
      cases held
    · exact fun _ => rfl
  | activate phase running =>
    refine sound_of_over rfl (by simp) ?_ ?_
    · intro stopped
      rw [show coordinator.stopped = true from stopped] at running
      cases running
    · exact fun _ => rfl
  | finish =>
    exact sound_of_over rfl (by simp)
      (fun stopped => sound.stopped_fence stopped) (fun _ => rfl)
  | abandon _ busy => exact sound_of_abandon sound busy
  | expire awaiting =>
    constructor
    · exact sound.started_le
    · intro acquired deadline timed
      exact absurd awaiting (by simp [synchronous, show coordinator.renewal = _ from timed])
    · exact fun _ => rfl
    · exact sound.releasing_idle
  | stop awaiting =>
    constructor
    · exact sound.started_le
    · intro acquired deadline timed
      exact absurd awaiting (by simp [synchronous, show coordinator.renewal = _ from timed])
    · exact fun _ => rfl
    · intro releasing
      cases releasing
  | drained stopped stays releasing =>
    constructor
    · exact sound.started_le
    · exact sound.timed_fence
    · exact fun _ => sound.stopped_fence stopped
    · exact releasing

end Coordinator

section Acquire

variable [DecidableEq Owner] {lease document : Lease Owner} {ownerId : Owner}
  {now : ℚ}

variable (acquired : lease.acquire ownerId now = some document)

include acquired

theorem Lease.ownerId_of_acquire : document.ownerId = some ownerId := by
  unfold Lease.acquire at acquired
  split at acquired
  · cases acquired
  · cases acquired
    rfl

theorem Lease.expiresAt_of_acquire :
    document.expiresAt = now + leaseDurationMs := by
  unfold Lease.acquire at acquired
  split at acquired
  · cases acquired
  · cases acquired
    rfl

/-- Another process takes a lease only when its allowance has run out. -/
theorem Lease.expired_of_acquire (foreign : lease.ownerId ≠ some ownerId) :
    lease.expiresAt + workerClockSkewMs ≤ now := by
  unfold Lease.acquire at acquired
  split at acquired
  · cases acquired
  · rename_i free
    by_contra unexpired
    exact free ⟨foreign, not_le.mp unexpired⟩

theorem Lease.generation_of_renew (own : lease.ownerId = some ownerId)
    (live : now < lease.expiresAt) :
    document.generation = lease.generation := by
  unfold Lease.acquire at acquired
  split at acquired
  · cases acquired
  · cases acquired
    exact if_pos ⟨own, live⟩

theorem Lease.generation_of_take
    (vacant : lease.ownerId ≠ some ownerId ∨ lease.expiresAt ≤ now) :
    document.generation = lease.generation + 1 := by
  unfold Lease.acquire at acquired
  split at acquired
  · cases acquired
  · cases acquired
    apply if_neg
    rintro ⟨own, live⟩
    rcases vacant with foreign | lapsed
    · exact foreign own
    · exact absurd live (not_lt.mpr lapsed)

theorem Lease.generation_le_of_acquire :
    lease.generation ≤ document.generation := by
  by_cases own : lease.ownerId = some ownerId
  · rcases lt_or_ge now lease.expiresAt with live | lapsed
    · exact (Lease.generation_of_renew acquired own live).ge
    · have next := Lease.generation_of_take acquired (.inr lapsed)
      omega
  · have next := Lease.generation_of_take acquired (.inl own)
    omega

end Acquire

variable [DecidableEq Owner] {clocks : Clocks Owner}
  {election next : Election Owner}

/-- A lease write that the present lease still admits was computed from it,
after the lease was last written. -/
def Election.Computed (clocks : Clocks Owner) (election : Election Owner)
    (started : ℚ) (ownerId : Owner) (commit : Commit Owner) : Prop :=
  Current election.lease commit.base fun lease =>
    ∃ reading, election.updateTime ≤ reading ∧ started ≤ reading ∧
      reading ≤ election.time ∧
      lease.acquire ownerId (clocks.wall ownerId reading) =
        some commit.document

/-- What a renewal carries on its way through the transaction. -/
def Election.Tracks (clocks : Clocks Owner) (election : Election Owner)
    (ownerId : Owner) : Renewal Owner → Prop
  | .read _ _ snapshot =>
    Current election.lease snapshot.version (· = snapshot.value)
  | .sent _ started commit =>
    election.Computed clocks (started + clocks.boot ownerId) ownerId commit
  | _ => True

namespace Election

def written (election : Election Owner) (document : Lease Owner) :
    Election Owner :=
  { election with
    lease := election.lease.write document
    updateTime := election.time }

/-- Everything one step can do. -/
inductive Stepped (clocks : Clocks Owner) (election : Election Owner) :
    Event Owner → Election Owner → Prop where
  | tick {elapsed : ℚ} (forward : 0 ≤ elapsed) :
      Stepped clocks election (.tick elapsed)
        { election with time := election.time + elapsed }
  | move {ownerId : Owner} {move : Move} {coordinator : Coordinator Owner}
      (moved : (election.coordinators ownerId).Moved ownerId
        (clocks.monotonic ownerId election.time)
        (clocks.wall ownerId election.time) move coordinator) :
      Stepped clocks election (.move ownerId move)
        (election.put ownerId coordinator)
  | read {ownerId : Owner} {attempt : Nat} {started : ℚ}
      {renewal : Renewal Owner}
      (request : (election.coordinators ownerId).renewal.request =
        some (attempt, started))
      (waits : renewal = .read attempt started election.lease.read ∨
        renewal = .answered attempt started none) :
      Stepped clocks election (.read ownerId)
        (election.put ownerId
          { election.coordinators ownerId with renewal := renewal })
  | retry {ownerId : Owner} {attempt : Nat} {started : ℚ}
      (request : (election.coordinators ownerId).renewal.request =
        some (attempt, started)) :
      Stepped clocks election (.retry ownerId)
        ((election.forsake ownerId).put ownerId
          { election.coordinators ownerId with
            renewal := .begun attempt started })
  | fail {ownerId : Owner} {attempt : Nat} {started : ℚ}
      (request : (election.coordinators ownerId).renewal.request =
        some (attempt, started)) :
      Stepped clocks election (.fail ownerId)
        ((election.forsake ownerId).put ownerId
          (election.coordinators ownerId).abandon)
  | commit {ownerId : Owner} {attempt : Nat} {started : ℚ}
      {commit : Commit Owner}
      (phase : (election.coordinators ownerId).renewal =
        .sent attempt started commit)
      (current : commit.base = election.lease.version) :
      Stepped clocks election (.commit ownerId)
        ((election.written commit.document).put ownerId
          { election.coordinators ownerId with
            renewal := .answered attempt started (some commit.document) })
  | settle {index : Nat} {commit : Commit Owner}
      (member : commit ∈ election.dispatched)
      (current : commit.base = election.lease.version) :
      Stepped clocks election (.settle index)
        (election.written commit.document)
  | release {ownerId : Owner}
      (releasing : (election.coordinators ownerId).shutdown = .releasing)
      (owner : election.lease.value.ownerId = some ownerId) :
      Stepped clocks election (.release ownerId)
        ((election.written
          { election.lease.value with ownerId := none, expiresAt := 0 }).put
            ownerId
            { election.coordinators ownerId with shutdown := .done })
  | leave {ownerId : Owner}
      (releasing : (election.coordinators ownerId).shutdown = .releasing)
      (foreign : election.lease.value.ownerId ≠ some ownerId) :
      Stepped clocks election (.release ownerId)
        (election.put ownerId
          { election.coordinators ownerId with shutdown := .done })

variable {event : Event Owner}

theorem stepped_of_step (taken : election.step clocks event = some next) :
    Stepped clocks election event next := by
  unfold Election.step at taken
  cases event with
  | tick elapsed =>
    simp only at taken
    split at taken
    · rename_i forward
      cases taken
      exact .tick forward
    · cases taken
  | move ownerId move =>
    obtain ⟨coordinator, moved, rfl⟩ := Option.map_eq_some_iff.mp taken
    exact .move (Coordinator.moved_of_move moved)
  | read ownerId =>
    simp only at taken
    split at taken
    · rename_i attempt started phase
      cases taken
      have request : (election.coordinators ownerId).renewal.request =
          some (attempt, started) := by
        rw [phase]
        rfl
      refine .read request ?_
      split
      · exact .inr rfl
      · exact .inl rfl
    · cases taken
  | commit ownerId =>
    simp only at taken
    split at taken
    · rename_i attempt started commit phase
      obtain ⟨recorded, recording, rfl⟩ := Option.map_eq_some_iff.mp taken
      obtain ⟨cell, committed, rfl⟩ := Option.map_eq_some_iff.mp recording
      obtain ⟨current, rfl⟩ := Cell.commit_eq_some.mp committed
      exact .commit phase current
    · cases taken
  | retry ownerId =>
    obtain ⟨⟨attempt, started⟩, request, rfl⟩ :=
      Option.map_eq_some_iff.mp taken
    exact .retry request
  | fail ownerId =>
    obtain ⟨⟨attempt, started⟩, request, rfl⟩ :=
      Option.map_eq_some_iff.mp taken
    exact .fail request
  | settle index =>
    simp only at taken
    split at taken
    · rename_i commit found
      obtain ⟨cell, committed, rfl⟩ := Option.map_eq_some_iff.mp taken
      obtain ⟨current, rfl⟩ := Cell.commit_eq_some.mp committed
      exact .settle (List.mem_of_getElem? found) current
    · cases taken
  | release ownerId =>
    simp only at taken
    split at taken
    · rename_i releasing
      cases taken
      unfold Lease.release
      split
      · rename_i document released
        split at released
        · rename_i owner
          cases released
          exact .release releasing owner
        · cases released
      · rename_i released
        split at released
        · cases released
        · rename_i foreign
          exact .leave releasing foreign
    · cases taken

/-- The bookkeeping of all processes. -/
structure Followed (clocks : Clocks Owner) (election : Election Owner) :
    Prop where
  updateTime_le : election.updateTime ≤ election.time
  sound : ∀ ownerId, (election.coordinators ownerId).Sound
    (clocks.monotonic ownerId election.time)
  tracks : ∀ ownerId, election.Tracks clocks ownerId
    (election.coordinators ownerId).renewal
  dispatched : ∀ commit ∈ election.dispatched, ∃ ownerId,
    election.Computed clocks election.updateTime ownerId commit

variable {ownerId : Owner} {coordinator : Coordinator Owner}

theorem forall_put (holds : Owner → Coordinator Owner → Prop)
    (own : holds ownerId coordinator)
    (others : ∀ other, holds other (election.coordinators other)) :
    ∀ other, holds other
      ((election.put ownerId coordinator).coordinators other) := by
  intro other
  by_cases same : other = ownerId
  · subst same
    simpa [put] using own
  · simpa [put, Function.update_of_ne same] using others other

section

omit [DecidableEq Owner]

@[simp] theorem forsake_coordinators (election : Election Owner)
    (ownerId : Owner) :
    (election.forsake ownerId).coordinators = election.coordinators := by
  unfold forsake
  split <;> rfl

@[simp] theorem forsake_lease (election : Election Owner) (ownerId : Owner) :
    (election.forsake ownerId).lease = election.lease := by
  unfold forsake
  split <;> rfl

@[simp] theorem forsake_time (election : Election Owner) (ownerId : Owner) :
    (election.forsake ownerId).time = election.time := by
  unfold forsake
  split <;> rfl

end

variable {elapsed : ℚ}

theorem Computed.later {started : ℚ} {commit : Commit Owner}
    (forward : 0 ≤ elapsed)
    (computed : election.Computed clocks started ownerId commit) :
    Election.Computed clocks
      { election with time := election.time + elapsed } started ownerId
      commit := by
  apply Current.mono computed
  rintro lease ⟨reading, afterWrite, afterStart, past, acquired⟩
  exact ⟨reading, afterWrite, afterStart, by linarith, acquired⟩

variable {renewal : Renewal Owner}

theorem Tracks.later (forward : 0 ≤ elapsed)
    (tracks : election.Tracks clocks ownerId renewal) :
    Election.Tracks clocks
      { election with time := election.time + elapsed } ownerId renewal := by
  cases renewal with
  | read attempt started snapshot => exact tracks
  | sent attempt started commit => exact Computed.later forward tracks
  | _ => trivial

theorem Tracks.write (tracks : election.Tracks clocks ownerId renewal)
    (document : Lease Owner) :
    (election.written document).Tracks clocks ownerId renewal := by
  cases renewal with
  | read | sent => exact Current.write tracks document _
  | _ => trivial

namespace Followed

variable (followed : election.Followed clocks)

include followed

theorem tick (forward : 0 ≤ elapsed) :
    Followed clocks { election with time := election.time + elapsed } := by
  have later : election.time ≤ election.time + elapsed := by linarith
  constructor
  · exact le_trans followed.updateTime_le later
  · intro ownerId
    exact (followed.sound ownerId).later (sub_le_sub_right later _)
  · exact fun ownerId => (followed.tracks ownerId).later forward
  · intro commit member
    obtain ⟨ownerId, before⟩ := followed.dispatched commit member
    exact ⟨ownerId, before.later forward⟩

theorem put
    (sound : coordinator.Sound (clocks.monotonic ownerId election.time))
    (tracks : election.Tracks clocks ownerId coordinator.renewal) :
    (election.put ownerId coordinator).Followed clocks where
  updateTime_le := followed.updateTime_le
  sound := forall_put
    (fun other coordinator => coordinator.Sound
      (clocks.monotonic other election.time)) sound followed.sound
  tracks := forall_put
    (fun other coordinator =>
      election.Tracks clocks other coordinator.renewal)
    tracks followed.tracks
  dispatched := followed.dispatched

theorem write (document : Lease Owner) :
    (election.written document).Followed clocks where
  updateTime_le := le_refl _
  sound := followed.sound
  tracks := fun ownerId => (followed.tracks ownerId).write document
  dispatched := by
    intro commit member
    obtain ⟨ownerId, before⟩ := followed.dispatched commit member
    exact ⟨ownerId, Current.write before document _⟩

theorem forsake (ownerId : Owner) :
    (election.forsake ownerId).Followed clocks := by
  unfold Election.forsake
  split
  · rename_i attempt started commit phase
    have sent := followed.tracks ownerId
    rw [phase] at sent
    refine { followed with dispatched := ?_ }
    intro other member
    rcases List.mem_cons.mp member with rfl | earlier
    · refine ⟨ownerId, ?_⟩
      apply Current.mono sent
      rintro lease ⟨reading, afterWrite, afterStart, past, acquired⟩
      exact ⟨reading, afterWrite, afterWrite, past, acquired⟩
    · exact followed.dispatched other earlier
  · exact followed

theorem tracks_of_moved {move : Move}
    (moved : (election.coordinators ownerId).Moved ownerId
      (clocks.monotonic ownerId election.time)
      (clocks.wall ownerId election.time) move coordinator) :
    election.Tracks clocks ownerId coordinator.renewal := by
  have before := followed.tracks ownerId
  cases moved with
  | send phase acquired =>
    rw [phase] at before
    rename_i attempt started snapshot document
    have startedLe := (followed.sound ownerId).started_le attempt started
      (by rw [phase]; rfl)
    apply Current.mono before
    rintro lease rfl
    -- The wall clock is read now, after every write so far.
    refine ⟨election.time, followed.updateTime_le, ?_, le_refl _, acquired⟩
    unfold Clocks.monotonic at startedLe
    linarith
  | replace phase after noFence renewal shutdown =>
    rw [renewal]
    trivial
  | expire | stop | drained => exact before
  | _ => trivial

end Followed

theorem followed_empty (clocks : Clocks Owner) :
    Followed clocks {} where
  updateTime_le := le_refl _
  sound := fun _ => Coordinator.sound_of_over rfl (by simp) (fun _ => rfl)
    (fun _ => rfl)
  tracks := fun _ => trivial
  dispatched := by
    intro commit member
    cases member

theorem followed_of_stepped (followed : election.Followed clocks)
    (stepped : Stepped clocks election event next) : next.Followed clocks := by
  cases stepped with
  | tick forward => exact followed.tick forward
  | move moved =>
    exact followed.put
      (Coordinator.sound_of_moved (followed.sound _) moved)
      (followed.tracks_of_moved moved)
  | read request waits =>
    refine followed.put ((followed.sound _).wait request ?_) ?_
    · rcases waits with rfl | rfl <;> rfl
    · rcases waits with rfl | rfl
      · exact current_read election.lease
      · trivial
  | retry request =>
    refine (followed.forsake _).put ?_ trivial
    rw [forsake_time]
    exact (followed.sound _).wait request rfl
  | fail request =>
    refine (followed.forsake _).put ?_ trivial
    rw [forsake_time]
    exact Coordinator.sound_of_abandon (followed.sound _)
      (Coordinator.busy_of_request request)
  | commit phase current =>
    rename_i ownerId attempt started commit
    have request : (election.coordinators ownerId).renewal.request =
        some (attempt, started) := by
      rw [phase]
      rfl
    exact (followed.write commit.document).put
      ((followed.sound ownerId).wait request rfl) trivial
  | settle member current => exact followed.write _
  | release releasing owner =>
    exact (followed.write _).put
      ((followed.sound _).done releasing) ((followed.write _).tracks _)
  | leave releasing foreign =>
    exact followed.put ((followed.sound _).done releasing)
      (followed.tracks _)

inductive Rewritten (before after : Cell (Lease Owner)) : Prop where
  | keep (same : after = before)
  | acquire (ownerId : Owner) (now : ℚ) (document : Lease Owner)
      (acquired : before.value.acquire ownerId now = some document)
      (wrote : after = before.write document)
  | release (ownerId : Owner) (owner : before.value.ownerId = some ownerId)
      (wrote : after = before.write
        { before.value with ownerId := none, expiresAt := 0 })

theorem rewritten_of_stepped (followed : election.Followed clocks)
    (stepped : Stepped clocks election event next) :
    Rewritten election.lease next.lease := by
  have acquire {started : ℚ} {ownerId : Owner} {commit : Commit Owner}
      (computed : election.Computed clocks started ownerId commit)
      (current : commit.base = election.lease.version) :
      Rewritten election.lease (election.lease.write commit.document) := by
    obtain ⟨reading, -, -, -, acquired⟩ := computed.of_same current
    exact .acquire ownerId _ commit.document acquired rfl
  cases stepped with
  | tick | move | read | leave => exact .keep rfl
  | retry | fail => exact .keep (forsake_lease election _)
  | commit phase current =>
    rename_i ownerId attempt started commit
    have computed := followed.tracks ownerId
    rw [phase] at computed
    exact acquire computed current
  | settle member current =>
    obtain ⟨ownerId, computed⟩ := followed.dispatched _ member
    exact acquire computed current
  | release releasing owner => exact .release _ owner rfl

variable {before after : Cell (Lease Owner)}

theorem Rewritten.generation_le (rewritten : Rewritten before after) :
    before.value.generation ≤ after.value.generation := by
  cases rewritten with
  | keep same => rw [same]
  | acquire ownerId now document acquired wrote =>
    rw [wrote]
    exact Lease.generation_le_of_acquire acquired
  | release ownerId owner wrote => rw [wrote]; exact le_refl _

/-- A write that gives the lease to somebody raises the generation, unless it
renews a lease of its own that it did not read as lapsed. -/
theorem Rewritten.generation_lt (rewritten : Rewritten before after)
    (owner : after.value.ownerId = some ownerId)
    (wrote : after.version ≠ before.version)
    (vacant : before.value.ownerId ≠ some ownerId ∨
      before.value.expiresAt ≤ after.value.expiresAt - leaseDurationMs) :
    before.value.generation < after.value.generation := by
  cases rewritten with
  | keep same => exact absurd (by rw [same]) wrote
  | acquire other now document acquired wrote =>
    subst wrote
    have named := Lease.ownerId_of_acquire acquired
    rw [Cell.write_value, named] at owner
    cases owner
    have expiry := Lease.expiresAt_of_acquire acquired
    rw [Cell.write_value, expiry, add_sub_cancel_right] at vacant
    rw [Cell.write_value, Lease.generation_of_take acquired vacant]
    exact Nat.lt_succ_self _
  | release other named wrote =>
    subst wrote
    cases owner

/-- The generation over a run: it never falls, and it is higher wherever
somebody owns the lease who did not own it before. -/
structure Raises (before after : Election Owner) : Prop where
  generation_le :
    before.lease.value.generation ≤ after.lease.value.generation
  generation_lt : ∀ ownerId, after.lease.value.ownerId = some ownerId →
    before.lease.value.ownerId ≠ some ownerId →
      before.lease.value.generation < after.lease.value.generation

omit [DecidableEq Owner] in
theorem Raises.refl (election : Election Owner) : election.Raises election where
  generation_le := le_refl _
  generation_lt := fun _ owner foreign => absurd owner foreign

theorem Raises.trans {first second third : Election Owner}
    (front : first.Raises second) (back : second.Raises third) :
    first.Raises third where
  generation_le := le_trans front.generation_le back.generation_le
  generation_lt := by
    intro ownerId owner foreign
    by_cases already : second.lease.value.ownerId = some ownerId
    · exact lt_of_lt_of_le (front.generation_lt ownerId already foreign)
        back.generation_le
    · exact lt_of_le_of_lt front.generation_le
        (back.generation_lt ownerId owner already)

theorem Rewritten.raises
    (rewritten : Rewritten election.lease next.lease) :
    election.Raises next where
  generation_le := rewritten.generation_le
  generation_lt := by
    intro ownerId owner foreign
    apply rewritten.generation_lt owner ?_ (.inl foreign)
    intro same
    cases rewritten with
    | keep equal =>
      rw [equal] at owner
      exact foreign owner
    | acquire other now document acquired wrote | release other named wrote =>
      rw [wrote, Cell.write_version] at same
      omega

theorem raises_of_steps {allowed : Election Owner → Event Owner → Prop}
    (followed : election.Followed clocks)
    (run : System.Steps (Worker.election clocks) allowed election next) :
    election.Raises next := by
  apply run.related followed
  · intro before event after followed _ taken
    exact followed_of_stepped followed (stepped_of_step taken)
  · exact Raises.refl
  · exact fun _ _ _ => Raises.trans
  · intro before event after followed _ taken
    exact (rewritten_of_stepped followed (stepped_of_step taken)).raises

end Election

end Eki.Worker
