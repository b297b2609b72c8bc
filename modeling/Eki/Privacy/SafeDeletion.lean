import Eki.Library.Journal
import Eki.Privacy.Deletion

/-!
# The safety of a deletion

Whatever replicas, administrators and the account's other writers do, only the
execution whose claim is current writes to the request or deletes a document,
and the Auth account is given up only after a removal that compared identities.
-/

namespace Eki.Privacy

open Transition
open Function (update_apply)
open Option (any_eq_true bind_eq_some_iff filter_eq_some_iff map_eq_some_iff)

/-! ## What one step of an execution does -/

namespace Stage

/-- The removal of the profile has been acknowledged. -/
def afterRemoval : Stage → Bool
  | .dispatching | .deletingAccount _ | .finishing => true
  | _ => false

def afterVanish : Stage → Bool
  | .deletingAccount gone => gone
  | .finishing => true
  | _ => false

/-- The stage rests on nothing that happened before. -/
def plain : Stage → Bool
  | .removing _ _ => false
  | stage => !stage.afterRemoval

variable {before after : Stage} {error : DeletionError}

theorem plain_of_stopped (taken : before.stopped error = some after) :
    after.plain = true := by
  cases before <;> cases taken <;> rfl

theorem claimed_of_stopped (taken : before.stopped error = some after) :
    after.claimed = true := by
  cases before <;> cases taken <;> rfl

theorem plain_iff {stage : Stage} :
    stage.plain = true ↔
      stage.afterRemoval = false ∧ stage.afterVanish = false ∧
        ∀ reads current, stage ≠ .removing reads current := by
  cases stage <;> simp [plain, afterRemoval, afterVanish]

end Stage

namespace Execution

def current (execution : Execution) (replica : Nat) (stored : Stored) : Bool :=
  stored.request.any
    (DeletionRequest.ownedBy replica execution.generation)

structure GoesOn (execution after : Execution) : Prop where
  run : after.run = execution.run
  generation : after.generation = execution.generation
  stage : after.stage = execution.stage ∨
    (after.stage.plain = true ∧ after.stage.claimed = true)

theorem GoesOn.same (execution : Execution) : execution.GoesOn execution :=
  ⟨rfl, rfl, .inl rfl⟩

variable {stage : Stage} {execution : Execution}

theorem goesOn_goOn (plain : stage.plain = true)
    (claimed : stage.claimed = true) :
    ∀ after ∈ execution.goOn stage, execution.GoesOn after := by
  intro after member
  cases member
  exact ⟨rfl, rfl, .inr ⟨plain, claimed⟩⟩

variable {after : Execution}

theorem goesOn_throw {stored : Stored} {error : DeletionError}
    (member : after ∈ (execution.throw stored error).execution) :
    execution.GoesOn after := by
  obtain ⟨stage, stopped, goes⟩ := bind_eq_some_iff.mp member
  apply goesOn_goOn
  · exact Stage.plain_of_stopped stopped
  · exact Stage.claimed_of_stopped stopped
  · exact goes

variable {delivery : Http.Delivery}

variable {written : Stored} {next : Option Execution} {events : List Event}

theorem goesOn_committed (member : after ∈
      (execution.committed written delivery next events).execution) :
    after ∈ next ∨ execution.GoesOn after := by
  cases delivery with
  | acknowledged => exact .inl member
  | lost =>
    right
    obtain ⟨stage, stopped, goes⟩ := bind_eq_some_iff.mp member
    apply goesOn_goOn
    · exact Stage.plain_of_stopped stopped
    · exact Stage.claimed_of_stopped stopped
    · exact goes
  | again =>
    cases member
    exact .inr (.same execution)

theorem goesOn_then (plain : stage.plain = true)
    (claimed : stage.claimed = true) :
    ∀ after ∈ (execution.committed written delivery (execution.goOn stage)
      events).execution, execution.GoesOn after := by
  intro after member
  rcases goesOn_committed member with moved | stayed
  · exact goesOn_goOn plain claimed after moved
  · exact stayed

/-- What one step of an execution can do. -/
inductive Acts (execution : Execution) (replica : Nat) (stored : Stored) :
    Outcome → Prop where
  /-- Nothing but the fleet's lock is written. -/
  | rests {outcome : Outcome}
      (request : outcome.stored.request = stored.request)
      (account : outcome.stored.account = stored.account)
      (events : outcome.events = [])
      (goes : ∀ after ∈ outcome.execution, execution.GoesOn after) :
      Acts execution replica stored outcome
  | claims {outcome : Outcome} {data : DeletionRequest} {deadlineAt : Nat}
      (starting : execution.stage = .starting)
      (found : stored.request = some data)
      (pending : data.status = .pending)
      (request : outcome.stored.request = some (data.claim replica deadlineAt))
      (account : outcome.stored.account = stored.account)
      (events : outcome.events = [])
      (goes : ∀ after ∈ outcome.execution,
        execution.GoesOn after ∨
          (after.run = execution.run ∧ after.stage = .locking)) :
      Acts execution replica stored outcome
  | checks {outcome : Outcome} {reads : IdentityReads}
      {identity : Option String} (same : outcome.stored = stored)
      (events : outcome.events = [])
      (identified : passengerIdentity reads true = some (.ok identity))
      (goes : outcome.execution =
        some { execution with stage := .removing reads identity }) :
      Acts execution replica stored outcome
  | writes {outcome : Outcome} {data after : DeletionRequest}
      (claimed : execution.stage.claimed = true)
      (found : stored.request = some data)
      (owned : data.ownedBy replica execution.generation = true)
      (request : outcome.stored.request = some after)
      (generation : after.generation = data.generation)
      (target : data.targetCreatedAt.isSome → after.targetCreatedAt.isSome)
      (executor : after.executorId = data.executorId)
      (account : outcome.stored.account = stored.account ∨
        ∃ page, outcome.stored.account = stored.account.withoutRateLimits page)
      (events : outcome.events = [])
      (goes : ∀ after ∈ outcome.execution, execution.GoesOn after) :
      Acts execution replica stored outcome
  | removes {outcome : Outcome} {data : DeletionRequest}
      {reads : IdentityReads} {identity : Option String}
      (removing : execution.stage = .removing reads identity)
      (found : stored.request = some data)
      (owned : data.ownedBy replica execution.generation = true)
      (unchanged : data.identityChanged identity = false)
      (request : outcome.stored.request =
        some { data with phase := some .authDeletionDispatched })
      (account : outcome.stored.account = stored.account.withoutProfile)
      (events : outcome.events =
        [.removed execution.run
          { generation := data.generation
            recorded := data.targetCreatedAt
            reads
            current := identity }])
      (goes : ∀ after ∈ outcome.execution,
        after = { execution with stage := .dispatching } ∨
          execution.GoesOn after) :
      Acts execution replica stored outcome
  | dispatches {outcome : Outcome}
      (dispatching : execution.stage = .dispatching)
      (same : outcome.stored = stored)
      (events : outcome.events = [.dispatched execution.run])
      (goes : outcome.execution =
        some { execution with stage := .deletingAccount false }) :
      Acts execution replica stored outcome
  | vanishes {outcome : Outcome}
      (deleting : execution.stage = .deletingAccount false)
      (request : outcome.stored.request = stored.request)
      (account : outcome.stored.account = stored.account.withoutUser)
      (events : outcome.events = [.accountGone execution.run])
      (goes : outcome.execution =
        some { execution with stage := .deletingAccount true }) :
      Acts execution replica stored outcome
  | settles {outcome : Outcome}
      (gone : execution.stage = .deletingAccount true)
      (same : outcome.stored = stored)
      (events : outcome.events = [])
      (goes : outcome.execution =
        some { execution with stage := .finishing }) :
      Acts execution replica stored outcome
  | finishes {outcome : Outcome} {data : DeletionRequest}
      (finishing : execution.stage = .finishing)
      (found : stored.request = some data)
      (owned : data.ownedBy replica execution.generation = true)
      (request : outcome.stored.request = none)
      (account : outcome.stored.account = stored.account)
      (events : outcome.events = [.requestRemoved execution.run])
      (goes : ∀ after ∈ outcome.execution, execution.GoesOn after) :
      Acts execution replica stored outcome

variable {execution : Execution} {replica : Nat} {stored : Stored}

theorem acts_throw (error : DeletionError) :
    Acts execution replica stored (execution.throw stored error) := by
  apply Acts.rests
  · rfl
  · rfl
  · rfl
  · intro after member
    exact goesOn_throw member

theorem acts_owned {events : DeletionRequest → List Event}
    {write : DeletionRequest → Except DeletionError Stored}
    (commits : ∀ data written, stored.request = some data →
      data.ownedBy replica execution.generation = true →
      write data = .ok written →
      Acts execution replica stored
        (execution.committed written delivery next (events data))) :
    Acts execution replica stored
      (execution.owned replica stored delivery next events write) := by
  unfold owned
  split
  · exact acts_throw _
  · rename_i data found
    obtain ⟨found, owned⟩ := filter_eq_some_iff.mp found
    split
    · exact acts_throw _
    · rename_i written wrote
      exact commits data written found owned wrote

theorem acts_claim (starting : execution.stage = .starting)
    (now deadlineAt : Nat) (delivery : Http.Delivery) :
    Acts execution replica stored
      (execution.claim replica stored now deadlineAt delivery) := by
  unfold claim
  split
  · apply Acts.rests
    · rfl
    · rfl
    · rfl
    · intro after member
      cases member
  · rename_i data found
    obtain ⟨found, due⟩ := filter_eq_some_iff.mp found
    apply Acts.claims starting found
    · simp only [DeletionRequest.due, Bool.and_eq_true, beq_iff_eq] at due
      exact due.1
    · rfl
    · rfl
    · rfl
    · intro after member
      rcases goesOn_committed member with moved | stayed
      · cases moved
        exact .inr ⟨rfl, rfl⟩
      · exact .inl stayed

theorem acts_lock (delivery : Http.Delivery) :
    Acts execution replica stored (execution.lock stored delivery) := by
  unfold lock
  split
  · exact acts_throw _
  · apply Acts.rests
    · rfl
    · rfl
    · rfl
    · exact goesOn_then rfl rfl

theorem acts_record (identity : Option String)
    (claimed : execution.stage.claimed = true) (delivery : Http.Delivery) :
    Acts execution replica stored
      (execution.record replica stored identity delivery) := by
  apply acts_owned
  intro data written found owned wrote
  split at wrote
  · cases wrote
  · cases wrote
    apply Acts.writes claimed found owned
    · rfl
    · rfl
    · intro known
      simp [known]
    · rfl
    · exact .inl rfl
    · rfl
    · exact goesOn_then rfl rfl

theorem goesOn_afterPage (page : List String) :
    ∀ after ∈ execution.afterPage page, execution.GoesOn after := by
  unfold afterPage
  apply goesOn_goOn
  · split <;> rfl
  · split <;> rfl

theorem acts_list : Acts execution replica stored (execution.list stored) := by
  apply Acts.rests
  · rfl
  · rfl
  · rfl
  · unfold list
    dsimp only
    split
    · exact goesOn_afterPage _
    · exact goesOn_goOn rfl rfl

theorem acts_deletePage (page : List String)
    (claimed : execution.stage.claimed = true) (delivery : Http.Delivery) :
    Acts execution replica stored
      (execution.deletePage replica stored page delivery) := by
  apply acts_owned
  intro data written found owned wrote
  cases wrote
  apply Acts.writes claimed found owned
  · exact found
  · rfl
  · exact id
  · rfl
  · exact .inr ⟨page, rfl⟩
  · rfl
  · intro after member
    rcases goesOn_committed member with moved | stayed
    · exact goesOn_afterPage page after moved
    · exact stayed

theorem acts_requeue (claimed : execution.stage.claimed = true) (now : Nat)
    (delivery : Http.Delivery) :
    Acts execution replica stored
      (execution.requeue replica stored now delivery) := by
  apply acts_owned
  intro data written found owned wrote
  cases wrote
  apply Acts.writes claimed found owned
  · rfl
  · rfl
  · exact id
  · rfl
  · exact .inl rfl
  · rfl
  · exact goesOn_then rfl rfl

variable {reads : IdentityReads}

theorem acts_remove {identity : Option String}
    (removing : execution.stage = .removing reads identity)
    (delivery : Http.Delivery) :
    Acts execution replica stored
      (execution.remove replica stored reads identity delivery) := by
  apply acts_owned
  intro data written found owned wrote
  split at wrote
  · cases wrote
  · rename_i unchanged
    cases wrote
    apply Acts.removes removing found owned
    · simpa using unchanged
    · rfl
    · rfl
    · rfl
    · intro after member
      rcases goesOn_committed member with moved | stayed
      · cases moved
        exact .inl rfl
      · exact .inr stayed

theorem acts_finish (finishing : execution.stage = .finishing)
    (delivery : Http.Delivery) :
    Acts execution replica stored
      (execution.finish replica stored delivery) := by
  apply acts_owned
  intro data written found owned wrote
  cases wrote
  apply Acts.finishes finishing found owned
  · rfl
  · rfl
  · rfl
  · exact goesOn_then rfl rfl

theorem acts_release (error : Option DeletionError) (delivered : Bool) :
    Acts execution replica stored
      (execution.release stored error delivered) := by
  apply Acts.rests
  · rfl
  · rfl
  · rfl
  · intro after member
    unfold release at member
    dsimp only at member
    split at member
    · obtain ⟨error, -, goes⟩ := bind_eq_some_iff.mp member
      exact goesOn_goOn rfl rfl after goes
    · exact goesOn_goOn rfl rfl after member

theorem acts_fail (error : DeletionError) (now delay : Nat)
    (claimed : execution.stage.claimed = true) :
    Acts execution replica stored
      (execution.fail replica stored error now delay) := by
  cases found : stored.request.filter
      (DeletionRequest.ownedBy replica execution.generation) with
  | none =>
    apply Acts.rests
    · simp [fail, found]
    · simp [fail, found]
    · rfl
    · intro after member
      cases member
  | some data =>
    obtain ⟨stands, owned⟩ := filter_eq_some_iff.mp found
    apply Acts.writes claimed stands owned
    · simp only [fail, found]
      rfl
    · rfl
    · exact id
    · rfl
    · exact .inl (by simp [fail, found])
    · rfl
    · intro after member
      cases member

variable {outcome : Outcome}

theorem acts_identify {allowed : Option String → Stage}
    (leads : ∀ identity, passengerIdentity reads true = some (.ok identity) →
      Acts execution replica stored
        { stored
          execution := execution.goOn (allowed identity) })
    (taken : execution.identify stored reads allowed = some outcome) :
    Acts execution replica stored outcome := by
  obtain ⟨result, read, leaves⟩ := map_eq_some_iff.mp taken
  cases result with
  | error error =>
    cases leaves
    exact acts_throw _
  | ok identity =>
    cases leaves
    exact leads identity read

theorem acts_goOn (plain : stage.plain = true)
    (claimed : stage.claimed = true) :
    Acts execution replica stored
      { stored
        execution := execution.goOn stage } := by
  apply Acts.rests
  · rfl
  · rfl
  · rfl
  · exact goesOn_goOn plain claimed

theorem acts_of_act {action : Action}
    (taken : execution.act replica stored action = some outcome) :
    Acts execution replica stored outcome := by
  obtain ⟨run, generation, stage⟩ := execution
  cases action with
  | stop error =>
    cases taken
    exact acts_throw _
  | claim now deadlineAt delivery =>
    cases stage <;> cases taken
    exact acts_claim rfl _ _ _
  | lock delivery =>
    cases stage <;> cases taken
    exact acts_lock _
  | read source =>
    cases stage <;> cases taken
    · exact acts_goOn rfl rfl
    · exact acts_goOn rfl rfl
  | identify =>
    cases stage <;> try cases taken
    · apply acts_identify _ taken
      intro identity identified
      exact acts_goOn rfl rfl
    · apply acts_identify _ taken
      intro identity identified
      exact Acts.checks rfl rfl identified rfl
  | record delivery =>
    cases stage <;> cases taken
    exact acts_record _ rfl _
  | list =>
    cases stage <;> cases taken
    exact acts_list
  | deletePage delivery =>
    cases stage <;> cases taken
    exact acts_deletePage _ rfl _
  | requeue now delivery =>
    cases stage <;> cases taken
    exact acts_requeue rfl _ _
  | remove delivery =>
    cases stage <;> cases taken
    exact acts_remove rfl _
  | dispatch =>
    cases stage <;> cases taken
    exact Acts.dispatches rfl rfl rfl rfl
  | vanish =>
    cases stage with
    | deletingAccount gone =>
      cases gone <;> cases taken
      exact Acts.vanishes rfl rfl rfl rfl rfl
    | _ => cases taken
  | acknowledge =>
    cases stage with
    | deletingAccount gone =>
      cases gone <;> cases taken
      exact Acts.settles rfl rfl rfl rfl
    | _ => cases taken
  | finish delivery =>
    cases stage <;> cases taken
    exact acts_finish rfl _
  | release delivered =>
    cases stage <;> cases taken
    exact acts_release _ _
  | fail now delay =>
    cases stage <;> cases taken
    exact acts_fail _ _ _ rfl

end Execution

/-! ## What is recorded of a run -/

/-- What has to be recorded before an event. -/
def Justified : Event → List Event → Prop
  | .removed _ _, _ => True
  | .dispatched run, earlier => ∃ removal, .removed run removal ∈ earlier
  | .accountGone run, earlier => .dispatched run ∈ earlier
  | .requestRemoved run, earlier => .accountGone run ∈ earlier

def recorded : Journal.Machine (List Event) Event where
  first := []
  apply := List.cons
  permits := Justified

theorem after_recorded (history : List Event) :
    recorded.after history = history := by
  induction history with
  | nil => rfl
  | cons event earlier induction =>
    rw [Journal.Machine.after, induction]
    rfl

variable {event : Event}

theorem justified_of_lawful {history later earlier : List Event}
    (lawful : recorded.Lawful history)
    (split : history = later ++ event :: earlier) :
    Justified event earlier := by
  subst split
  have here := lawful.earlier.1
  rw [after_recorded] at here
  exact here

/-- What is recorded of the execution so far. -/
structure Backed (history : List Event) (execution : Execution) : Prop where
  removing : ∀ reads current, execution.stage = .removing reads current →
    passengerIdentity reads true = some (.ok current)
  removed : execution.stage.afterRemoval = true →
    ∃ removal, .removed execution.run removal ∈ history
  dispatched : ∀ gone, execution.stage = .deletingAccount gone →
    .dispatched execution.run ∈ history
  vanished : execution.stage.afterVanish = true →
    .accountGone execution.run ∈ history

namespace Backed

variable {history : List Event} {execution after : Execution}

theorem later (backed : Backed history execution) (events : List Event) :
    Backed (events ++ history) execution := by
  constructor
  · exact backed.removing
  · intro past
    obtain ⟨removal, member⟩ := backed.removed past
    exact ⟨removal, List.mem_append_right _ member⟩
  · intro gone deleting
    exact List.mem_append_right _ (backed.dispatched gone deleting)
  · intro past
    exact List.mem_append_right _ (backed.vanished past)

theorem plain (plain : execution.stage.plain = true) :
    Backed history execution := by
  obtain ⟨before, there, other⟩ := Stage.plain_iff.mp plain
  constructor
  · intro reads current removing
    exact absurd removing (other reads current)
  · intro past
    rw [before] at past
    cases past
  · intro gone deleting
    rw [deleting] at before
    cases before
  · intro past
    rw [there] at past
    cases past

theorem goesOn (backed : Backed history execution)
    (goes : execution.GoesOn after) : Backed history after := by
  obtain ⟨run, generation, stage⟩ := goes
  rcases stage with same | ⟨plain, -⟩
  · constructor
    · rw [same]
      exact backed.removing
    · rw [same, run]
      exact backed.removed
    · rw [same, run]
      exact backed.dispatched
    · rw [same, run]
      exact backed.vanished
  · exact .plain plain

end Backed

/-- The account at the last check was no operator's, and it was absent or the
one that the request was made for. -/
def Removal.Compared (removal : Removal) : Prop :=
  ∃ user profile drivers,
    removal.reads = ⟨some user, some profile, some drivers⟩ ∧
    isOperator user profile drivers = false ∧
    removal.current = user.map AuthUser.creationTime ∧
    (removal.current = none ∨ removal.current = removal.recorded)

variable {data : DeletionRequest}

theorem compared_of_removing {reads : IdentityReads} {current : Option String}
    (identified : passengerIdentity reads true = some (.ok current))
    (target : data.targetCreatedAt.isSome)
    (unchanged : data.identityChanged current = false) :
    Removal.Compared
      { generation := data.generation
        recorded := data.targetCreatedAt
        reads
        current } := by
  obtain ⟨user, profile, drivers, whole, passenger, -, identity⟩ :=
    identity_eq_ok identified
  refine ⟨user, profile, drivers, whole, passenger, identity, ?_⟩
  cases current with
  | none => exact .inl rfl
  | some found =>
    right
    simp only [DeletionRequest.identityChanged, target, Option.isSome_some,
      Bool.true_and, bne_eq_false_iff_eq] at unchanged
    exact unchanged.symm

/-! ## What holds in every state -/

namespace Deletions

/-- A step of the replicas, or any change of the account by anybody else. -/
def withAccount : System Deletions (Label ⊕ Account)
  | state, .inl label => state.step label
  | state, .inr account => some (state.setAccount account)

structure Sound (state : Deletions) : Prop where
  lawful : recorded.Lawful state.history
  backed : ∀ replica execution, state.executions replica = some execution →
    Backed state.history execution
  target : ∀ data, state.stored.request = some data →
    data.targetCreatedAt.isSome
  compared : ∀ run removal, .removed run removal ∈ state.history →
    removal.Compared
  fresh : ∀ replica execution, state.executions replica = some execution →
    execution.run < state.runs

theorem sound_start (account : Account) : Sound (start account) := by
  constructor
  · trivial
  · intro replica execution running
    cases running
  · intro data found
    cases found
  · intro run removal member
    cases member
  · intro replica execution running
    cases running

structure Keeps (state : Deletions) (outcome : Outcome) : Prop where
  lawful : recorded.Lawful (outcome.events ++ state.history)
  backed : ∀ after ∈ outcome.execution,
    Backed (outcome.events ++ state.history) after
  target : ∀ data, outcome.stored.request = some data →
    data.targetCreatedAt.isSome
  compared : ∀ run removal, .removed run removal ∈ outcome.events →
    removal.Compared

namespace Sound

variable {state : Deletions}

variable {outcome : Outcome}

variable {replica : Nat} {execution : Execution}

variable (sound : Sound state)

include sound

theorem settle (keeps : Keeps state outcome)
    (running : state.executions replica = some execution)
    (same : ∀ after ∈ outcome.execution, after.run = execution.run) :
    Sound (state.settle replica execution outcome) := by
  constructor
  · exact keeps.lawful
  · intro other after stands
    simp only [Deletions.settle, update_apply] at stands
    split at stands
    · exact keeps.backed after stands
    · exact (sound.backed other after stands).later outcome.events
  · exact keeps.target
  · intro run removal member
    rcases List.mem_append.mp member with new | old
    · exact keeps.compared run removal new
    · exact sound.compared run removal old
  · intro other after stands
    simp only [Deletions.settle, update_apply] at stands
    split at stands
    · rw [same after stands]
      exact sound.fresh replica execution running
    · exact sound.fresh other after stands

/-- A step that records nothing keeps what it leaves plain. -/
theorem keeps_of_quiet (events : outcome.events = [])
    (backed : ∀ after ∈ outcome.execution, Backed state.history after)
    (target : ∀ data, outcome.stored.request = some data →
      data.targetCreatedAt.isSome) : Keeps state outcome := by
  constructor
  · rw [events]
    exact sound.lawful
  · rw [events]
    exact backed
  · exact target
  · intro run removal member
    rw [events] at member
    cases member

theorem keeps_of_event (events : outcome.events = [event])
    (justified : Justified event state.history)
    (backed : ∀ after ∈ outcome.execution,
      Backed (event :: state.history) after)
    (target : ∀ data, outcome.stored.request = some data →
      data.targetCreatedAt.isSome)
    (compared : ∀ run removal, event = .removed run removal →
      removal.Compared) : Keeps state outcome := by
  constructor
  · rw [events]
    refine ⟨?_, sound.lawful⟩
    rw [after_recorded]
    exact justified
  · rw [events]
    exact backed
  · exact target
  · intro run removal member
    rw [events] at member
    exact compared run removal (List.mem_singleton.mp member).symm

theorem keeps_of_acts (running : state.executions replica = some execution)
    (acts : execution.Acts replica state.stored outcome) :
    Keeps state outcome := by
  have backed := sound.backed replica execution running
  cases acts with
  | rests request account events goes =>
    apply sound.keeps_of_quiet events
    · intro after member
      exact backed.goesOn (goes after member)
    · rw [request]
      exact sound.target
  | claims starting found pending request account events goes =>
    apply sound.keeps_of_quiet events
    · intro after member
      rcases goes after member with stayed | ⟨-, locking⟩
      · exact backed.goesOn stayed
      · apply Backed.plain
        rw [locking]
        rfl
    · intro data stored
      rw [request] at stored
      cases stored
      have known := sound.target _ found
      exact known
  | checks same events identified goes =>
    apply sound.keeps_of_quiet events
    · intro after member
      rw [goes] at member
      cases member
      constructor
      · intro reads current removing
        cases removing
        exact identified
      · intro past
        cases past
      · intro gone deleting
        cases deleting
      · intro past
        cases past
    · rw [same]
      exact sound.target
  | writes claimed found owned request generation target executor account events goes =>
    apply sound.keeps_of_quiet events
    · intro after member
      exact backed.goesOn (goes after member)
    · intro data stored
      rw [request] at stored
      cases stored
      exact target (sound.target _ found)
  | removes removing found owned unchanged request account events goes =>
    apply sound.keeps_of_event events trivial
    · intro after member
      rcases goes after member with dispatching | stayed
      · cases dispatching
        constructor
        · intro reads current removing
          cases removing
        · intro _
          exact ⟨_, List.mem_cons_self⟩
        · intro gone deleting
          cases deleting
        · intro past
          cases past
      · exact (backed.later [_]).goesOn stayed
    · intro data stored
      rw [request] at stored
      cases stored
      have known := sound.target _ found
      exact known
    · intro run removal same
      cases same
      apply compared_of_removing _ (sound.target _ found) unchanged
      exact backed.removing _ _ removing
  | dispatches dispatching same events goes =>
    have removed := backed.removed (by rw [dispatching]; rfl)
    apply sound.keeps_of_event events removed
    · intro after member
      rw [goes] at member
      cases member
      constructor
      · intro reads current removing
        cases removing
      · intro _
        exact ((backed.later [_]).removed (by rw [dispatching]; rfl))
      · intro gone deleting
        exact List.mem_cons_self
      · intro past
        cases past
    · rw [same]
      exact sound.target
    · intro run removal same
      cases same
  | vanishes deleting request account events goes =>
    have dispatched := backed.dispatched _ deleting
    apply sound.keeps_of_event events dispatched
    · intro after member
      rw [goes] at member
      cases member
      constructor
      · intro reads current removing
        cases removing
      · intro _
        exact ((backed.later [_]).removed (by rw [deleting]; rfl))
      · intro gone deleting
        exact List.mem_cons_of_mem _ dispatched
      · intro past
        exact List.mem_cons_self
    · rw [request]
      exact sound.target
    · intro run removal same
      cases same
  | settles gone same events goes =>
    apply sound.keeps_of_quiet events
    · intro after member
      rw [goes] at member
      cases member
      constructor
      · intro reads current removing
        cases removing
      · intro _
        exact backed.removed (by rw [gone]; rfl)
      · intro gone deleting
        cases deleting
      · intro _
        exact backed.vanished (by rw [gone]; rfl)
    · rw [same]
      exact sound.target
  | finishes finishing found owned request account events goes =>
    apply sound.keeps_of_event events
    · exact backed.vanished (by rw [finishing]; rfl)
    · intro after member
      exact (backed.later [_]).goesOn (goes after member)
    · intro data stored
      rw [request] at stored
      cases stored
    · intro run removal same
      cases same

end Sound

/-! ## What one step of all does -/

/-- What a step can do to the request, and who did it. -/
inductive Moves (state : Deletions) :
    Label ⊕ Account → Deletions → Prop where
  /-- The request is left alone. -/
  | still {label : Label ⊕ Account} {next : Deletions}
      (request : next.stored.request = state.stored.request)
      (account : ∀ inner, label = .inl inner →
        next.stored.account = state.stored.account ∨
          next.stored.account = state.stored.account.withoutUser)
      (history : next.history = state.history)
      (runs : state.runs ≤ next.runs)
      (executions : ∀ replica execution,
        next.executions replica = some execution →
        state.executions replica = some execution ∨
          (execution.stage = .starting ∧ execution.run = state.runs ∧
            state.runs < next.runs)) :
      Moves state label next
  | submits {sid now : Nat} {current : Bool} {delivery : Http.Delivery}
      {reads : IdentityReads} {identity : Option String}
      (identified : passengerIdentity reads false = some (.ok identity)) :
      Moves state (.inl (.submit sid current now delivery))
        (state.submit sid now identity delivery)
  | recovers {replica now : Nat} {recovery : DeletionRequest.Recovery}
      {data recovered : DeletionRequest}
      (found : state.stored.request = some data)
      (taken : data.recover recovery now = some recovered) :
      Moves state (.inl (.recover replica recovery now))
        (state.setRequest (some recovered))
  | works {replica : Nat} {action : Action} {execution : Execution}
      {outcome : Outcome}
      (running : state.executions replica = some execution)
      (acted : execution.act replica state.stored action = some outcome) :
      Moves state (.inl (.work replica action))
        (state.settle replica execution outcome)

variable {next state : Deletions} {label : Label ⊕ Account}

theorem Moves.quiet (request : next.stored.request = state.stored.request)
    (account : ∀ inner, label = .inl inner →
      next.stored.account = state.stored.account ∨
        next.stored.account = state.stored.account.withoutUser)
    (history : next.history = state.history) (runs : next.runs = state.runs)
    (executions : next.executions = state.executions) :
    Moves state label next := by
  apply Moves.still request account history (Nat.le_of_eq runs.symm)
  intro replica execution running
  rw [executions] at running
  exact .inl running

theorem moves_of_step (taken : withAccount state label = some next) :
    Moves state label next := by
  cases label with
  | inr account =>
    cases taken
    apply Moves.quiet
    · rfl
    · intro inner same
      cases same
    · rfl
    · rfl
    · rfl
  | inl label =>
    cases label with
    | request sid =>
      simp only [withAccount, step] at taken
      split at taken <;> cases taken
      exact .quiet rfl (fun _ _ => .inl rfl) rfl rfl rfl
    | consider sid source =>
      obtain ⟨reads, -, leads⟩ := map_eq_some_iff.mp taken
      cases leads
      exact .quiet rfl (fun _ _ => .inl rfl) rfl rfl rfl
    | submit sid current now delivery =>
      simp only [withAccount, step] at taken
      split at taken
      · rename_i identity found
        obtain ⟨reads, -, identified⟩ := bind_eq_some_iff.mp found
        cases taken
        cases current with
        | true => exact .submits identified
        | false => exact .quiet rfl (fun _ _ => .inl rfl) rfl rfl rfl
      · cases taken
        exact .quiet rfl (fun _ _ => .inl rfl) rfl rfl rfl
      · cases taken
    | recover replica recovery now =>
      simp only [withAccount, step] at taken
      split at taken
      · cases taken
      · obtain ⟨recovered, found, leads⟩ :=
          map_eq_some_iff.mp taken
        obtain ⟨data, stored, recovers⟩ :=
          bind_eq_some_iff.mp found
        cases leads
        exact .recovers stored recovers
    | scan replica =>
      simp only [withAccount, step] at taken
      split at taken
      · cases taken
      · cases taken
        apply Moves.still
        · rfl
        · exact fun _ _ => .inl rfl
        · rfl
        · exact Nat.le_succ _
        · intro other execution running
          simp only [update_apply] at running
          split at running
          · cases running
            exact .inr ⟨rfl, rfl, Nat.lt_succ_self _⟩
          · exact .inl running
    | work replica action =>
      obtain ⟨execution, running, leads⟩ :=
        bind_eq_some_iff.mp taken
      obtain ⟨outcome, acted, settled⟩ :=
        map_eq_some_iff.mp leads
      cases settled
      exact .works running acted
    | crash replica =>
      obtain ⟨execution, running, settled⟩ :=
        map_eq_some_iff.mp taken
      cases settled
      apply Moves.still
      · rfl
      · exact fun _ _ => .inl rfl
      · rfl
      · exact Nat.le_refl _
      · intro other after stands
        simp only [settle, update_apply] at stands
        split at stands
        · cases stands
        · exact .inl stands
    | lateDeletion =>
      simp only [withAccount, step] at taken
      split at taken
      · cases taken
      · cases taken
        exact .quiet rfl (fun _ _ => .inr rfl) rfl rfl rfl
    | fleetLock held =>
      cases taken
      exact .quiet rfl (fun _ _ => .inl rfl) rfl rfl rfl

variable {execution : Execution} {stored : Stored} {replica : Nat}

variable {outcome : Outcome}

/-- An execution goes on as it was, or is claimed and stays what it was. -/
theorem goes_of_acts (acts : execution.Acts replica stored outcome) :
    ∀ after ∈ outcome.execution, execution.GoesOn after ∨
      after.run = execution.run ∧ (execution.stage.claimed = true →
        after.stage.claimed = true ∧
          after.generation = execution.generation) := by
  intro after member
  cases acts with
  | rests request account events goes
  | writes claimed found owned request generation target executor account events goes
  | finishes finishing found owned request account events goes =>
    exact .inl (goes after member)
  | claims starting found pending request account events goes =>
    rcases goes after member with stayed | ⟨same, -⟩
    · exact .inl stayed
    · refine .inr ⟨same, fun claimed => ?_⟩
      rw [starting] at claimed
      cases claimed
  | checks same events identified goes
  | dispatches dispatching same events goes
  | vanishes deleting request account events goes
  | settles gone same events goes =>
    rw [goes] at member
    cases member
    exact .inr ⟨rfl, fun _ => ⟨rfl, rfl⟩⟩
  | removes removing found owned unchanged request account events goes =>
    rcases goes after member with moved | stayed
    · rw [moved]
      exact .inr ⟨rfl, fun _ => ⟨rfl, rfl⟩⟩
    · exact .inl stayed

theorem run_of_acts (acts : execution.Acts replica stored outcome) :
    ∀ after ∈ outcome.execution, after.run = execution.run := by
  intro after member
  rcases goes_of_acts acts after member with goes | ⟨same, -⟩
  · exact goes.run
  · exact same

variable {identity : Option String} {now : Nat}

theorem target_of_submit {before : Option DeletionRequest}
    (known : identity.isSome)
    (earlier : ∀ data, before = some data → data.targetCreatedAt.isSome)
    (found : (DeletionRequest.submit identity now before).or before =
      some data) : data.targetCreatedAt.isSome := by
  rcases Option.or_eq_some_iff.mp found with taken | ⟨-, kept⟩
  · cases before with
    | none =>
      cases taken
      exact known
    | some stored =>
      simp only [DeletionRequest.submit] at taken
      split at taken
      · cases taken
      · cases taken
        split
        · exact known
        · exact known
  · exact earlier data kept

theorem Sound.step {state next : Deletions} {label : Label ⊕ Account}
    (sound : Sound state) (taken : withAccount state label = some next) :
    Sound next := by
  cases moves_of_step taken with
  | still request account history runs executions =>
    constructor
    · rw [history]
      exact sound.lawful
    · intro replica execution running
      rw [history]
      rcases executions replica execution running with old | ⟨starting, -⟩
      · exact sound.backed replica execution old
      · apply Backed.plain
        rw [starting]
        rfl
    · rw [request]
      exact sound.target
    · rw [history]
      exact sound.compared
    · intro replica execution running
      rcases executions replica execution running with old | ⟨-, new, more⟩
      · exact Nat.lt_of_lt_of_le (sound.fresh replica execution old) runs
      · rw [new]
        exact more
  | submits identified =>
    obtain ⟨user, profile, drivers, -, -, present, same⟩ :=
      identity_eq_ok identified
    have known := present.resolve_right (by decide)
    constructor
    · exact sound.lawful
    · exact sound.backed
    · intro data found
      apply target_of_submit _ sound.target found
      rw [same]
      simpa using known
    · exact sound.compared
    · exact sound.fresh
  | recovers found recovers =>
    constructor
    · exact sound.lawful
    · exact sound.backed
    · intro data stored
      cases stored
      rw [(DeletionRequest.recover_eq_some recovers).2.2.2]
      exact sound.target _ found
    · exact sound.compared
    · exact sound.fresh
  | works running acted =>
    have acts := Execution.acts_of_act acted
    exact sound.settle (sound.keeps_of_acts running acts) running
      (run_of_acts acts)

/-! ## Generations -/

/-- The step issues the request anew: a claim, a recovery, or the resubmission
of a failed request. -/
def reissues (before : DeletionRequest) : Label ⊕ Account → Bool
  | .inl (.work _ (.claim _ _ _)) => true
  | .inl (.recover _ _ _) => true
  | .inl (.submit _ _ _ _) => before.status == .failed
  | _ => false

variable {delivery : Http.Delivery}

theorem starting_of_claim {deadlineAt : Nat}
    (acted : execution.act replica stored (.claim now deadlineAt delivery) =
      some outcome) : execution.stage = .starting := by
  obtain ⟨run, generation, stage⟩ := execution
  cases stage <;> cases acted
  rfl

variable {state next : Deletions} {label : Label ⊕ Account}
  {before after : DeletionRequest}

variable {sid : Nat}

theorem stored_of_submit (found : state.stored.request = some before)
    (stored : (state.submit sid now identity delivery).stored.request =
      some after) :
    after = before ∨
      DeletionRequest.submit identity now (some before) = some after := by
  simp only [submit, setRequest, found] at stored
  rcases Option.or_eq_some_iff.mp stored with taken | ⟨-, kept⟩
  · exact .inr taken
  · cases kept
    exact .inl rfl

theorem generation_le_of_step (taken : withAccount state label = some next)
    (found : state.stored.request = some before)
    (stored : next.stored.request = some after) :
    before.generation ≤ after.generation := by
  cases moves_of_step taken with
  | still request account history runs executions =>
    rw [request, found] at stored
    cases stored
    exact Nat.le_refl _
  | submits identified =>
    rcases stored_of_submit found stored with same | accepted
    · exact Nat.le_of_eq (by rw [same])
    · rcases DeletionRequest.submit_some accepted with
        ⟨-, -, raised⟩ | ⟨-, -, kept, -⟩
      · omega
      · exact Nat.le_of_eq kept.symm
  | recovers stands recovers =>
    rw [found] at stands
    cases stands
    cases stored
    have raised := (DeletionRequest.recover_eq_some recovers).2.2.1
    omega
  | works running acted =>
    have leaves : ∀ request, some after = request →
        request = some before → before.generation ≤ after.generation := by
      intro request one other
      rw [← one] at other
      cases other
      exact Nat.le_refl _
    cases Execution.acts_of_act acted with
    | rests request | vanishes deleting request =>
      exact leaves _ stored.symm (request.trans found)
    | claims starting stands pending request account events goes =>
      rw [found] at stands
      cases stands
      have same := stored.symm.trans request
      cases same
      exact Nat.le_succ _
    | checks same | dispatches dispatching same | settles gone same =>
      exact leaves _ stored.symm (by rw [settle, same, found])
    | writes claimed stands owned request generation target executor account
        events goes =>
        rw [found] at stands
        cases stands
        have same := stored.symm.trans request
        cases same
        exact Nat.le_of_eq generation.symm
    | removes removing stands owned unchanged request account events goes =>
      rw [found] at stands
      cases stands
      have same := stored.symm.trans request
      cases same
      exact Nat.le_refl _
    | finishes finishing stands owned request account events goes =>
      cases stored.symm.trans request

theorem generation_lt_of_reissue (taken : withAccount state label = some next)
    (found : state.stored.request = some before)
    (stored : next.stored.request = some after)
    (again : reissues before label = true) (changed : after ≠ before) :
    before.generation < after.generation := by
  cases moves_of_step taken with
  | still request account history runs executions =>
    rw [request, found] at stored
    cases stored
    exact absurd rfl changed
  | submits identified =>
    rcases stored_of_submit found stored with same | accepted
    · exact absurd same changed
    · rcases DeletionRequest.submit_some accepted with
        ⟨-, -, raised⟩ | ⟨other, -⟩
      · omega
      · exact absurd (by simpa [reissues] using again) other
  | recovers stands recovers =>
    rw [found] at stands
    cases stands
    cases stored
    have raised := (DeletionRequest.recover_eq_some recovers).2.2.1
    omega
  | @works replica action execution outcome running acted =>
    cases action with
    | claim now deadlineAt delivery =>
      have starting := starting_of_claim acted
      obtain ⟨run, generation, stage⟩ := execution
      cases starting
      cases acted
      simp only [settle, Execution.claim, found] at stored
      split at stored
      · rw [found] at stored
        cases stored
        exact absurd rfl changed
      · rename_i data due
        obtain ⟨same, -⟩ := filter_eq_some_iff.mp due
        cases same
        cases stored
        exact Nat.lt_succ_self _
    | _ => cases again

/-! ## Executions whose claim is gone -/

theorem stored_of_stale {action : Action}
    (running : state.executions replica = some execution)
    (claimed : execution.stage.claimed = true)
    (stale : execution.current replica state.stored = false)
    (taken : withAccount state (.inl (.work replica action)) = some next) :
    next.stored.request = state.stored.request ∧
      next.stored.account.withoutUser = state.stored.account.withoutUser := by
  have owns : ∀ data, state.stored.request = some data →
      data.ownedBy replica execution.generation = true → False := by
    intro data found owned
    simp [Execution.current, found, owned] at stale
  obtain ⟨stands, other, leads⟩ := bind_eq_some_iff.mp taken
  rw [running] at other
  cases other
  obtain ⟨outcome, acted, settled⟩ := map_eq_some_iff.mp leads
  cases settled
  have unwritten : outcome.stored = state.stored →
      outcome.stored.request = state.stored.request ∧
        outcome.stored.account.withoutUser =
          state.stored.account.withoutUser := by
    intro same
    rw [same]
    exact ⟨rfl, rfl⟩
  cases Execution.acts_of_act acted with
  | rests request account events goes =>
    exact ⟨request, congrArg Account.withoutUser account⟩
  | claims starting found pending request account events goes =>
    rw [starting] at claimed
    cases claimed
  | checks same | dispatches dispatching same | settles gone same =>
    exact unwritten same
  | writes claimed found owned request generation target executor account events
      goes => exact (owns _ found owned).elim
  | removes removing found owned | finishes finishing found owned =>
    exact (owns _ found owned).elim
  | vanishes deleting request account events goes =>
    refine ⟨request, ?_⟩
    rw [settle, account]
    rfl

theorem executor_of_acts (acts : execution.Acts replica stored outcome) :
    outcome.stored.request = stored.request ∨
      ∀ data, outcome.stored.request = some data →
        data.executorId = some replica := by
  cases acts with
  | rests request | vanishes deleting request => exact .inl request
  | claims starting found pending request account events goes =>
    right
    intro data stands
    rw [request] at stands
    cases stands
    rfl
  | checks same | dispatches dispatching same | settles gone same =>
    exact .inl (by rw [same])
  | writes claimed found owned request generation target executor account events
      goes =>
      right
      intro data stands
      rw [request] at stands
      cases stands
      rw [executor]
      exact (DeletionRequest.ownedBy_iff.mp owned).2.1
  | removes removing found owned unchanged request account events goes =>
    right
    intro data stands
    rw [request] at stands
    cases stands
    exact (DeletionRequest.ownedBy_iff.mp owned).2.1
  | finishes finishing found owned request account events goes =>
    right
    intro data stands
    rw [request] at stands
    cases stands

theorem claimed_of_acts (acts : execution.Acts replica stored outcome)
    (claimed : execution.stage.claimed = true) :
    ∀ after ∈ outcome.execution,
      after.stage.claimed = true ∧ after.generation = execution.generation := by
  intro after member
  rcases goes_of_acts acts after member with goes | ⟨-, stays⟩
  · refine ⟨?_, goes.generation⟩
    rcases goes.stage with same | ⟨-, past⟩
    · rw [same]
      exact claimed
    · exact past
  · exact stays claimed

structure Stale (replica run : Nat) (state : Deletions) : Prop where
  begun : run < state.runs
  lost : ∀ execution, state.executions replica = some execution →
    execution.run = run →
    execution.stage.claimed = true ∧
      execution.current replica state.stored = false

theorem current_congr {other : Execution} {written : Stored}
    (request : written.request = stored.request)
    (generation : other.generation = execution.generation) :
    other.current replica written = execution.current replica stored := by
  rw [Execution.current, Execution.current, request, generation]

/-- A submission gives nobody a claim. -/
theorem lost_of_submit
    (lost : execution.current replica state.stored = false) :
    execution.current replica
      (state.submit sid now identity delivery).stored = false := by
  rw [Bool.eq_false_iff]
  intro gained
  obtain ⟨after, stored, owned⟩ := (any_eq_true _ _).mp gained
  obtain ⟨processing, executor, generation⟩ :=
    DeletionRequest.ownedBy_iff.mp owned
  cases found : state.stored.request with
  | none =>
    simp only [submit, setRequest, found, DeletionRequest.submit] at stored
    cases stored
    cases processing
  | some before =>
    have unowned : before.ownedBy replica execution.generation = false := by
      simpa [Execution.current, found] using lost
    rcases stored_of_submit found stored with same | accepted
    · rw [same, unowned] at owned
      cases owned
    · rcases DeletionRequest.submit_some accepted with
        ⟨-, pending, -⟩ | ⟨-, status, same, who⟩
      · rw [pending] at processing
        cases processing
      · rw [status] at processing
        rw [who] at executor
        rw [same] at generation
        rw [DeletionRequest.ownedBy_iff.mpr
          ⟨processing, executor, generation⟩] at unowned
        cases unowned

theorem Stale.step {replica run : Nat} (stale : Stale replica run state)
    (taken : withAccount state label = some next) :
    Stale replica run next := by
  have moves := moves_of_step taken
  cases moves with
  | still request account history runs executions =>
    constructor
    · exact Nat.lt_of_lt_of_le stale.begun runs
    · intro execution running same
      rcases executions replica execution running with old | ⟨-, new, -⟩
      · obtain ⟨claimed, lost⟩ := stale.lost execution old same
        refine ⟨claimed, ?_⟩
        rw [current_congr request rfl]
        exact lost
      · have begun := stale.begun
        omega
  | submits identified =>
    constructor
    · exact stale.begun
    · intro execution running same
      obtain ⟨claimed, lost⟩ := stale.lost execution running same
      exact ⟨claimed, lost_of_submit lost⟩
  | recovers found recovers =>
    constructor
    · exact stale.begun
    · intro execution running same
      obtain ⟨claimed, lost⟩ := stale.lost execution running same
      refine ⟨claimed, ?_⟩
      have pending := (DeletionRequest.recover_eq_some recovers).2.1
      simp [Execution.current, setRequest, DeletionRequest.ownedBy, pending]
  | @works worker action execution outcome running acted =>
    have acts := Execution.acts_of_act acted
    constructor
    · exact stale.begun
    · intro after stands same
      simp only [settle, update_apply] at stands
      split at stands
      · rename_i here
        subst here
        have begun := (run_of_acts acts after stands).symm.trans same
        obtain ⟨claimed, lost⟩ := stale.lost execution running begun
        obtain ⟨past, generation⟩ := claimed_of_acts acts claimed after stands
        obtain ⟨unwritten, -⟩ := stored_of_stale running claimed lost taken
        refine ⟨past, ?_⟩
        rw [current_congr unwritten generation]
        exact lost
      · rename_i elsewhere
        obtain ⟨claimed, lost⟩ := stale.lost after stands same
        refine ⟨claimed, ?_⟩
        rcases executor_of_acts acts with unwritten | written
        · have same : (state.settle worker execution outcome).stored.request =
              state.stored.request := unwritten
          rw [current_congr same rfl]
          exact lost
        · rw [Bool.eq_false_iff]
          intro gained
          obtain ⟨data, stored, owned⟩ := (any_eq_true _ _).mp gained
          have executor := (DeletionRequest.ownedBy_iff.mp owned).2.1
          rw [written data stored] at executor
          exact elsewhere (Option.some.inj executor).symm

/-! ## Steps that are recorded -/

theorem acts_of_recorded (taken : withAccount state label = some next)
    (records : next.history = event :: state.history) :
    ∃ replica execution outcome,
      state.executions replica = some execution ∧
      execution.Acts replica state.stored outcome ∧
      outcome.events = [event] ∧ next.stored = outcome.stored := by
  have unrecorded : next.history ≠ state.history := by
    rw [records]
    exact List.cons_ne_self _ _
  cases moves_of_step taken with
  | still request account history runs executions =>
    exact absurd history unrecorded
  | submits | recovers => exact absurd rfl unrecorded
  | @works replica action execution outcome running acted =>
    refine ⟨replica, execution, outcome, running,
      Execution.acts_of_act acted, ?_, rfl⟩
    have joined : outcome.events ++ state.history =
        [event] ++ state.history := records
    exact List.append_cancel_right joined

variable {run : Nat}

section

variable (taken : withAccount state label = some next)

include taken

/-- What the record of a removal says: its claim was current, and it took the
profile away; and after the record that the account is gone there is none. -/
theorem records_of_step (records : next.history = event :: state.history) :
    match event with
    | .removed run removal => ∃ replica execution data,
        state.executions replica = some execution ∧ execution.run = run ∧
        state.stored.request = some data ∧
        data.ownedBy replica execution.generation = true ∧
        removal.generation = data.generation ∧
        removal.recorded = data.targetCreatedAt ∧
        next.stored.account = state.stored.account.withoutProfile
    | .accountGone _ => next.stored.account.user = none
    | _ => True := by
  obtain ⟨replica, execution, outcome, running, acts, events, stored⟩ :=
    acts_of_recorded taken records
  cases acts with
  | rests request account silent | checks same silent
  | writes claimed found owned request generation target executor account silent
  | settles gone same silent => cases silent.symm.trans events
  | claims starting found pending request account silent goes =>
    cases silent.symm.trans events
  | removes removing found owned unchanged request account logged goes =>
    cases logged.symm.trans events
    refine ⟨replica, execution, _, running, rfl, found, owned, rfl, rfl, ?_⟩
    rw [stored, account]
  | dispatches dispatching same logged goes
  | finishes finishing found owned request account logged =>
    cases logged.symm.trans events
    trivial
  | vanishes deleting request account logged goes =>
    cases logged.symm.trans events
    show next.stored.account.user = none
    rw [stored, account]
    rfl

theorem recorded_of_gone_request (found : state.stored.request = some before)
    (gone : next.stored.request = none) :
    ∃ run, next.history = .requestRemoved run :: state.history := by
  have stays : next.stored.request ≠ state.stored.request := by
    rw [found, gone]
    simp
  cases moves_of_step taken with
  | still request account history runs executions => exact absurd request stays
  | submits identified =>
    simp only [submit, setRequest, Option.or_eq_none_iff] at gone
    cases gone.2.symm.trans found
  | recovers stands recovers => cases gone
  | @works replica action execution outcome running acted =>
    cases Execution.acts_of_act acted with
    | rests request account events goes => exact absurd request stays
    | claims starting stands pending request
    | removes removing stands owned unchanged request =>
      cases gone.symm.trans request
    | checks same | dispatches dispatching same | settles gone' same =>
      exact absurd (congrArg Stored.request same) stays
    | writes claimed stands owned request generation target executor account
        events goes => cases gone.symm.trans request
    | vanishes deleting request account events goes =>
      exact absurd request stays
    | finishes finishing stands owned request account events goes =>
      refine ⟨execution.run, ?_⟩
      rw [settle, events]
      rfl

end

/-! ## Whole runs -/

theorem sound_of_steps {account : Account}
    (reached : withAccount.Steps (fun _ _ => True) (start account) state) :
    Sound state := by
  apply reached.invariant (sound_start account)
  intro before label after sound _ taken
  exact sound.step taken

structure Kept (state last : Deletions) : Prop where
  /-- Claims, resubmissions of a failed request and recoveries raise the
  generation, and nothing lowers it. -/
  raised : ∀ label next before after, withAccount last label = some next →
    last.stored.request = some before → next.stored.request = some after →
    before.generation ≤ after.generation ∧
      (reissues before label = true → after ≠ before →
        before.generation < after.generation)
  /-- An execution that has lost its claim writes neither the request nor the
  documents. -/
  unwritten : ∀ replica execution action next,
    last.executions replica = some execution →
    execution.stage.claimed = true →
    execution.current replica last.stored = false →
    withAccount last (.inl (.work replica action)) = some next →
    next.stored.request = last.stored.request ∧
      next.stored.account.withoutUser = last.stored.account.withoutUser
  /-- It does not get the claim back. -/
  lost : ∀ replica execution later,
    state.executions replica = some execution →
    execution.stage.claimed = true →
    execution.current replica state.stored = false →
    last.executions replica = some later → later.run = execution.run →
    later.current replica last.stored = false
  /-- The request goes after the account. -/
  requestLast : ∀ label next before, withAccount last label = some next →
    last.stored.request = some before → next.stored.request = none →
    ∃ run, next.history = .requestRemoved run :: last.history ∧
      .accountGone run ∈ last.history
  /-- An account that is recorded as gone was gone then. -/
  gone : ∀ label next run, withAccount last label = some next →
    next.history = .accountGone run :: last.history →
    next.stored.account.user = none
  /-- A deletion is dispatched after the removal of its profile, which found
  no operator and no other account. -/
  dispatched : ∀ later earlier run,
    last.history = later ++ .dispatched run :: earlier →
    ∃ removal, .removed run removal ∈ earlier ∧ removal.Compared
  /-- The removal found its claim current. -/
  removed : ∀ label next run removal, withAccount last label = some next →
    next.history = .removed run removal :: last.history →
    ∃ replica execution data,
      last.executions replica = some execution ∧ execution.run = run ∧
      last.stored.request = some data ∧
      data.ownedBy replica execution.generation = true ∧
      removal.generation = data.generation ∧
      removal.recorded = data.targetCreatedAt ∧
      next.stored.account = last.stored.account.withoutProfile

theorem privacy_deletion_is_safe {account : Account} {last : Deletions}
    (reached : withAccount.Steps (fun _ _ => True) (start account) state)
    (later : withAccount.Steps (fun _ _ => True) state last) :
    Kept state last := by
  have sound : Sound last := sound_of_steps (reached.trans later)
  constructor
  · intro label next before after taken found stored
    constructor
    · exact generation_le_of_step taken found stored
    · exact generation_lt_of_reissue taken found stored
  · intro replica execution action next running claimed stale taken
    exact stored_of_stale running claimed stale taken
  · intro replica execution after running claimed stale stands same
    have begun : Stale replica execution.run state := by
      constructor
      · exact (sound_of_steps reached).fresh replica execution running
      · intro other there _
        rw [running] at there
        cases there
        exact ⟨claimed, stale⟩
    have ended : Stale replica execution.run last := by
      apply later.invariant begun
      intro before label next stale _ taken
      exact stale.step taken
    exact (ended.lost after stands same).2
  · intro label next before taken found gone
    obtain ⟨run, records⟩ := recorded_of_gone_request taken found gone
    refine ⟨run, records, ?_⟩
    have lawful := (sound.step taken).lawful
    have justified := justified_of_lawful lawful
      (records.trans (List.nil_append _).symm)
    exact justified
  · intro label next run taken records
    exact records_of_step taken records
  · intro later earlier run split
    obtain ⟨removal, member⟩ := justified_of_lawful sound.lawful split
    refine ⟨removal, member, sound.compared run removal ?_⟩
    rw [split]
    exact List.mem_append_right _ (List.mem_cons_of_mem _ member)
  · intro label next run removal taken records
    exact records_of_step taken records

/-! ## A deletion, and one of an account that is gone already -/

def smallAccount : Account where
  user := some { creationTime := "1 June" }
  profile := some { role := some "passenger" }
  rateLimits := ["ride"]

def readIdentity : List (Label ⊕ Account) :=
  [ .inl (.work 0 (.read .auth)),
    .inl (.work 0 (.read .users)),
    .inl (.work 0 (.read .drivers)),
    .inl (.work 0 .identify) ]

def smallCleaning : List (Label ⊕ Account) :=
  [ .inl (.request 0),
    .inl (.consider 0 .auth),
    .inl (.consider 0 .users),
    .inl (.consider 0 .drivers),
    .inl (.submit 0 true 10 .acknowledged),
    .inl (.scan 0),
    .inl (.work 0 (.claim 10 40 .acknowledged)),
    .inl (.work 0 (.lock .acknowledged)) ] ++
    readIdentity ++
    [ .inl (.work 0 (.record .acknowledged)),
      .inl (.work 0 .list),
      .inl (.work 0 (.deletePage .acknowledged)) ]

def smallRemoval : List (Label ⊕ Account) :=
  readIdentity ++
    [ .inl (.work 0 (.remove .acknowledged)), .inl (.work 0 .dispatch) ]

def smallEnd : List (Label ⊕ Account) :=
  [ .inl (.work 0 .vanish),
    .inl (.work 0 .acknowledge),
    .inl (.work 0 (.finish .acknowledged)),
    .inl (.work 0 (.release true)) ]

/-- The account vanishes before its profile is removed. -/
def smallAbsence : List (Label ⊕ Account) :=
  smallCleaning ++ [.inr smallAccount.withoutUser] ++ smallRemoval

theorem exists_small_run (labels : List (Label ⊕ Account))
    (history : List Event)
    (decided : (withAccount.run (fun _ _ => true) (start smallAccount)
      labels).any (fun last => last.history == history) = true) :
    ∃ last : Deletions,
      withAccount.Steps (fun _ _ => True) (start smallAccount) last ∧
        last.history = history := by
  obtain ⟨last, steps, ends⟩ := System.exists_of_run decided
  refine ⟨last, ?_, by simpa using ends⟩
  apply steps.mono
  intro state label passes
  trivial

def smallComparison (user : Option AuthUser) : Removal where
  generation := 1
  recorded := some "1 June"
  reads := ⟨some user, some (some { role := some "passenger" }), some false⟩
  current := user.map AuthUser.creationTime

theorem privacy_deletion_is_safe_completed :
    ∃ last : Deletions, .requestRemoved 0 ∈ last.history ∧ Kept last last := by
  obtain ⟨last, steps, history⟩ := exists_small_run
    (smallCleaning ++ smallRemoval ++ smallEnd)
    [ .requestRemoved 0, .accountGone 0, .dispatched 0,
      .removed 0 (smallComparison smallAccount.user) ]
    (by decide +kernel)
  refine ⟨last, ?_, privacy_deletion_is_safe steps (.refl last)⟩
  rw [history]
  exact List.mem_cons_self

/-- Every dispatch follows a removal that found the recorded account. -/
def DispatchedAfterMatch (last : Deletions) : Prop :=
  ∀ later earlier run, last.history = later ++ .dispatched run :: earlier →
    ∃ removal, .removed run removal ∈ earlier ∧
      removal.current = removal.recorded

/-- The deletion of an account that is absent at the last check is dispatched
all the same. -/
theorem absent_account_is_dispatched :
    ¬ ∀ (account : Account) (state last : Deletions),
      withAccount.Steps (fun _ _ => True) (start account) state →
      withAccount.Steps (fun _ _ => True) state last →
      Kept state last ∧ DispatchedAfterMatch last := by
  intro matched
  obtain ⟨last, steps, history⟩ := exists_small_run smallAbsence
    [.dispatched 0, .removed 0 (smallComparison none)] (by decide +kernel)
  obtain ⟨removal, member, same⟩ :=
    (matched smallAccount last last steps (.refl last)).2 []
      [.removed 0 (smallComparison none)] 0 history
  cases List.mem_singleton.mp member
  cases same

end Deletions

end Eki.Privacy
