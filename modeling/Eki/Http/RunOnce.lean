import Eki.Http.Operations

/-!
# Operations run once

Only the creation of a record lets an admission execute, and a record is created
once.  A record that is finished never changes, so whoever reads it is shown the
same outcome; a caller that joins an admission under way is shown what that has
read before.
-/

namespace Eki.Http

open Transition
open Function (update update_of_ne update_self)
open Option (filter_eq_some_iff ite_none_left_eq_some map_eq_some_iff)

variable {Payload Hash Result : Type}

inductive RecordMove :
    Option (OperationRecord Hash Result) →
      Option (OperationRecord Hash Result) → Prop where
  | same (record : Option (OperationRecord Hash Result)) :
      RecordMove record record
  | create (record : OperationRecord Hash Result)
      (processing : record.status = .processing) :
      RecordMove none (some record)
  | change (before after : OperationRecord Hash Result)
      (processing : before.status = .processing)
      (payloadHash : after.payloadHash = before.payloadHash) :
      RecordMove (some before) (some after)

namespace RecordMove

variable {before after : Option (OperationRecord Hash Result)}

variable {record : OperationRecord Hash Result}

theorem finished (move : RecordMove before after)
    (stored : before = some record) (ended : record.finished = true) :
    after = some record := by
  cases move with
  | same => exact stored
  | create => cases stored
  | change first _ processing =>
    cases stored
    simp [OperationRecord.finished, processing] at ended

theorem payloadHash (move : RecordMove before after)
    (stored : before = some record) :
    ∃ later, after = some later ∧ later.payloadHash = record.payloadHash := by
  cases move with
  | same => exact ⟨record, stored, rfl⟩
  | create => cases stored
  | change _ later _ same =>
    cases stored
    exact ⟨later, rfl, same⟩

theorem of_filter_map {record : Option (OperationRecord Hash Result)}
    {allowed : OperationRecord Hash Result → Bool}
    {patch : OperationRecord Hash Result → OperationRecord Hash Result}
    (processing : ∀ data, allowed data = true → data.status = .processing)
    (keeps : ∀ data, (patch data).payloadHash = data.payloadHash)
    {written : OperationRecord Hash Result}
    (writes : (record.filter allowed).map patch = some written) :
    RecordMove record (some written) := by
  obtain ⟨data, filtered, rfl⟩ := map_eq_some_iff.mp writes
  obtain ⟨stored, passes⟩ := filter_eq_some_iff.mp filtered
  rw [stored]
  exact .change data (patch data) (processing data passes) (keeps data)

end RecordMove

variable {record : Option (OperationRecord Hash Result)}
  {written : OperationRecord Hash Result}

variable {patch : OperationRecord Hash Result → OperationRecord Hash Result}
  {executorId generation : Nat}

theorem recordMove_writeOwned
    (keeps : ∀ data, (patch data).payloadHash = data.payloadHash)
    (writes : writeOwned executorId generation patch record = some written) :
    RecordMove record (some written) := by
  apply RecordMove.of_filter_map _ keeps writes
  intro data passes
  simp only [Bool.and_eq_true, beq_iff_eq] at passes
  exact passes.1.1

variable {now : Nat}

theorem recordMove_recoverOperation {request : RecoveryRequest}
    (writes : recoverOperation request now record = some written) :
    RecordMove record (some written) := by
  apply RecordMove.of_filter_map _ _ writes
  · intro data passes
    simp only [Bool.and_eq_true, beq_iff_eq] at passes
    exact passes.1.1.1
  · intro data
    rfl

theorem recordMove_detectRecovery {locallyExecuting : Bool}
    (writes : detectRecovery now locallyExecuting record = some written) :
    RecordMove record (some written) := by
  apply RecordMove.of_filter_map _ _ writes
  · intro data passes
    simp only [Bool.and_eq_true, beq_iff_eq] at passes
    exact passes.1.1.1
  · intro data
    rfl

def Event.executes (key : OperationKey) : Event Payload Hash Result → Bool
  | .executed other _ => other == key
  | .answered _ _ _ _ => false

namespace AdmissionStage

def Shows (key : OperationKey) (record : OperationRecord Hash Result)
    (stage : AdmissionStage Hash Result) : Prop :=
  stage = .reading ∨ stage = .done ∨
    stage = .answering (operationSnapshot key.id record 0)

end AdmissionStage

namespace Operations

variable {payloadHash : Payload → Hash}
  {state next : Operations Payload Hash Result} {pid : Nat}
  {admission : Admission Payload Hash Result}

def Moves (state next : Operations Payload Hash Result) : Prop :=
  ∀ key, RecordMove (state.records key) (next.records key)

theorem Moves.of_eq (same : next.records = state.records) :
    Moves state next := by
  intro key
  rw [same]
  exact .same _

variable {key : OperationKey}

theorem moves_setRecord (move : ∀ written, record = some written →
      RecordMove (state.records key) (some written)) :
    Moves state (state.setRecord key record) := by
  intro other
  cases record with
  | none => exact .same _
  | some written =>
    show RecordMove _ (update state.records key (some written) other)
    by_cases same : other = key
    · subst same
      rw [update_self]
      exact move written rfl
    · rw [update_of_ne same]
      exact .same _

def HasHash (payloadHash : Payload → Hash)
    (state : Operations Payload Hash Result) (key : OperationKey)
    (payload : Payload) : Prop :=
  ∃ record, state.records key = some record ∧
    record.payloadHash = payloadHash payload

theorem HasHash.moves {payload : Payload}
    (has : HasHash payloadHash state key payload) (moves : Moves state next) :
    HasHash payloadHash next key payload := by
  obtain ⟨record, stored, hash⟩ := has
  obtain ⟨later, stored', same⟩ := (moves key).payloadHash stored
  exact ⟨later, stored', same.trans hash⟩

/-- What is known of an admission under way. -/
structure Fits (payloadHash : Payload → Hash)
    (state : Operations Payload Hash Result)
    (admission : Admission Payload Hash Result) : Prop where
  owns : admission.stage.owns = true →
    HasHash payloadHash state admission.submission.key
      admission.submission.payload
  mayStart : admission.stage.mayStart = true →
    ∀ event ∈ state.history,
      event.executes admission.submission.key = false
  answering : ∀ snapshot, admission.stage = .answering snapshot →
    HasHash payloadHash state admission.submission.key
      admission.submission.payload
  began : ∀ record, admission.began = some record →
    state.records admission.submission.key = some record ∧
      record.finished = true ∧
      admission.stage.Shows admission.submission.key record
  waiters : ∀ waiter ∈ admission.waiters,
    payloadHash waiter.payload = payloadHash admission.submission.payload

theorem Fits.moves (fits : Fits payloadHash state admission)
    (moves : Moves state next)
    (quiet : next.history = state.history) :
    Fits payloadHash next admission where
  owns := fun owned => (fits.owns owned).moves moves
  mayStart := by
    rw [quiet]
    exact fits.mayStart
  answering := fun snapshot shown =>
    (fits.answering snapshot shown).moves moves
  began := by
    intro record began
    obtain ⟨stored, ended, shows_⟩ := fits.began record began
    exact ⟨(moves _).finished stored ended, ended, shows_⟩
  waiters := fits.waiters

/-- An answer was given to a caller with the stored payload; where its
admission began after the operation had finished, it is the stored outcome. -/
structure Answers (payloadHash : Payload → Hash)
    (state : Operations Payload Hash Result) (key : OperationKey)
    (began : Option (OperationRecord Hash Result))
    (waiter : Waiter Payload Hash Result)
    (snapshot : OperationSnapshot Result) : Prop where
  payload : HasHash payloadHash state key waiter.payload
  outcome : ∀ record, began = some record →
    state.records key = some record ∧ record.finished = true ∧
      snapshot = operationSnapshot key.id record 0

variable {snapshot : OperationSnapshot Result}

theorem Answers.moves {began : Option (OperationRecord Hash Result)}
    {waiter : Waiter Payload Hash Result}
    (answers : Answers payloadHash state key began waiter snapshot)
    (moves : Moves state next) :
    Answers payloadHash next key began waiter snapshot where
  payload := answers.payload.moves moves
  outcome := by
    intro record began
    obtain ⟨stored, ended, shown⟩ := answers.outcome record began
    exact ⟨(moves key).finished stored ended, ended, shown⟩

structure Sound (payloadHash : Payload → Hash)
    (state : Operations Payload Hash Result) : Prop where
  fits : ∀ pid admission, state.admissions pid = some admission →
    Fits payloadHash state admission
  unique : ∀ pid admission other second,
    state.admissions pid = some admission →
    state.admissions other = some second →
    admission.stage.owns = true → second.stage.owns = true →
    admission.submission.key = second.submission.key → pid = other
  once : ∀ key, state.history.countP (Event.executes key) ≤ 1
  executed : ∀ key payload, .executed key payload ∈ state.history →
    HasHash payloadHash state key payload
  answered : ∀ key began waiter snapshot,
    .answered key began waiter snapshot ∈ state.history →
    Answers payloadHash state key began waiter snapshot
  fills : ∀ replica key hash pid,
    state.fills (replica, key, hash) = some pid →
    ∃ admission, state.admissions pid = some admission ∧
      admission.replica = replica ∧ admission.submission.key = key ∧
      payloadHash admission.submission.payload = hash

theorem sound_empty :
    Sound payloadHash (empty : Operations Payload Hash Result) := by
  constructor
  · intro pid admission stored
    cases stored
  · intro pid admission other second stored
    cases stored
  · intro key
    exact Nat.zero_le _
  · intro key payload member
    cases member
  · intro key began waiter snapshot member
    cases member
  · intro replica key hash pid joined
    cases joined

/-- Records move on, and what a replica keeps in memory may be lost. -/
theorem Sound.moves (sound : Sound payloadHash state)
    (moves : Moves state next) (history : next.history = state.history)
    (fewer : ∀ pid admission, next.admissions pid = some admission →
      state.admissions pid = some admission)
    (joins : ∀ replica key hash pid, next.fills (replica, key, hash) = some pid →
      ∃ admission, next.admissions pid = some admission ∧
        admission.replica = replica ∧ admission.submission.key = key ∧
        payloadHash admission.submission.payload = hash) :
    Sound payloadHash next := by
  constructor
  · intro pid admission stored
    exact (sound.fits pid admission (fewer pid admission stored)).moves moves
      history
  · intro one first other second foundFirst foundSecond
    exact sound.unique one first other second (fewer one first foundFirst)
      (fewer other second foundSecond)
  · rw [history]
    exact sound.once
  · intro key payload member
    rw [history] at member
    exact (sound.executed key payload member).moves moves
  · intro key began waiter snapshot member
    rw [history] at member
    exact (sound.answered key began waiter snapshot member).moves moves
  · exact joins

theorem Sound.setRecord (sound : Sound payloadHash state)
    (move : ∀ written, record = some written →
      RecordMove (state.records key) (some written)) :
    Sound payloadHash (state.setRecord key record) := by
  cases record with
  | none => exact sound
  | some written =>
    exact sound.moves (moves_setRecord move) rfl (fun _ _ => id) sound.fills

theorem Sound.assign (sound : Sound payloadHash state)
    {fills : Nat × OperationKey × Hash → Option Nat}
    (fits : Fits payloadHash state admission)
    (owns : admission.stage.owns = true → ∀ other second, other ≠ pid →
      state.admissions other = some second → second.stage.owns = true →
      second.submission.key ≠ admission.submission.key)
    (joins : ∀ replica key hash joined,
      fills (replica, key, hash) = some joined →
      (joined = pid ∧ admission.replica = replica ∧
        admission.submission.key = key ∧
        payloadHash admission.submission.payload = hash) ∨
      (joined ≠ pid ∧ state.fills (replica, key, hash) = some joined)) :
    Sound payloadHash ({ state with fills }.put pid admission) := by
  have cases_ : ∀ other second,
      ({ state with fills }.put pid admission).admissions other = some second →
        (other = pid ∧ second = admission) ∨
          (other ≠ pid ∧ state.admissions other = some second) := by
    intro other second found
    by_cases same : other = pid
    · subst same
      simp only [Operations.put, update_self, Option.some.injEq] at found
      exact .inl ⟨rfl, found.symm⟩
    · simp only [Operations.put, update_of_ne same] at found
      exact .inr ⟨same, found⟩
  constructor
  · intro other second found
    rcases cases_ other second found with ⟨-, rfl⟩ | ⟨-, found⟩
    · exact fits.moves (.of_eq rfl) rfl
    · exact (sound.fits other second found).moves (.of_eq rfl) rfl
  · intro one first other second foundFirst foundSecond ownsFirst ownsSecond
      sameKey
    rcases cases_ one first foundFirst with ⟨rfl, rfl⟩ | ⟨apart, before⟩
    · rcases cases_ other second foundSecond with ⟨rfl, -⟩ | ⟨apart, before⟩
      · rfl
      · exact absurd sameKey.symm
          (owns ownsFirst other second apart before ownsSecond)
    · rcases cases_ other second foundSecond with ⟨rfl, rfl⟩ | ⟨-, after⟩
      · exact absurd sameKey
          (owns ownsSecond one first apart before ownsFirst)
      · exact sound.unique one first other second before after ownsFirst
          ownsSecond sameKey
  · exact sound.once
  · exact sound.executed
  · intro key began waiter snapshot member
    exact (sound.answered key began waiter snapshot member).moves (.of_eq rfl)
  · intro replica key hash joined filled
    rcases joins replica key hash joined filled with
      ⟨rfl, facts⟩ | ⟨apart, filled⟩
    · refine ⟨admission, ?_, facts⟩
      simp [Operations.put]
    · obtain ⟨second, found, facts⟩ :=
        sound.fills replica key hash joined filled
      refine ⟨second, ?_, facts⟩
      simp [Operations.put, update_of_ne apart, found]

theorem Sound.joins (sound : Sound payloadHash state)
    {before : Admission Payload Hash Result}
    (stored : state.admissions pid = some before)
    (sameReplica : admission.replica = before.replica)
    (sameSubmission : admission.submission = before.submission)
    (replica : Nat) (key : OperationKey) (hash : Hash) (joined : Nat)
    (filled : state.fills (replica, key, hash) = some joined) :
    (joined = pid ∧ admission.replica = replica ∧
      admission.submission.key = key ∧
      payloadHash admission.submission.payload = hash) ∨
    (joined ≠ pid ∧ state.fills (replica, key, hash) = some joined) := by
  by_cases same : joined = pid
  · subst same
    obtain ⟨second, found, facts⟩ := sound.fills replica key hash joined filled
    rw [stored] at found
    cases found
    rw [sameReplica, sameSubmission]
    exact .inl ⟨rfl, facts⟩
  · exact .inr ⟨same, filled⟩

variable {stage : AdmissionStage Hash Result}

theorem Sound.put (sound : Sound payloadHash state)
    (stored : state.admissions pid = some admission)
    {waiters : List (Waiter Payload Hash Result)}
    (owns : stage.owns = true → admission.stage.owns = true)
    (fits : Fits payloadHash state { admission with waiters, stage }) :
    Sound payloadHash (state.put pid { admission with waiters, stage }) := by
  apply sound.assign fits
  · intro owned other second apart found owned' sameKey
    exact apart (sound.unique other second pid admission found stored owned'
      (owns owned) sameKey)
  · exact sound.joins stored rfl rfl

theorem Sound.local (sound : Sound payloadHash state)
    (localExecutions : Nat × OperationKey → Bool) :
    Sound payloadHash { state with localExecutions } :=
  sound.moves (.of_eq rfl) rfl (fun _ _ => id) sound.fills

variable [DecidableEq Hash]

theorem Sound.forget (sound : Sound payloadHash state) :
    Sound payloadHash (state.forget payloadHash pid admission) := by
  refine sound.moves (.of_eq rfl) rfl (fun _ _ => id) ?_
  intro replica key hash joined filled
  apply sound.fills replica key hash joined
  simp only [Operations.forget] at filled
  split at filled
  · by_cases same : (replica, key, hash) =
        (admission.replica, admission.submission.key,
          payloadHash admission.submission.payload)
    · rw [same, update_self] at filled
      cases filled
    · rwa [update_of_ne same] at filled
  · exact filled

omit [DecidableEq Hash] in
/-- A stage that neither owns nor answers fits an admission of which nothing
else is known. -/
theorem Fits.done (fits : Fits payloadHash state admission) :
    Fits payloadHash state
      { admission with
        waiters := []
        stage := .done } where
  owns := by
    intro owned
    cases owned
  mayStart := by
    intro started
    cases started
  answering := by
    intro snapshot shown
    cases shown
  began := by
    intro record began
    obtain ⟨stored, ended, -⟩ := fits.began record began
    exact ⟨stored, ended, .inr (.inl rfl)⟩
  waiters := by
    intro waiter member
    cases member

section

variable (sound : Sound payloadHash state)
  (stored : state.admissions pid = some admission)

include sound stored

theorem Sound.reject :
    Sound payloadHash (state.reject payloadHash pid admission) := by
  have fits := (sound.fits pid admission stored).done
  apply sound.forget.put
  · exact stored
  · intro owned
    cases owned
  · exact fits.moves (.of_eq rfl) rfl

theorem Sound.leave :
    Sound payloadHash (state.leave payloadHash pid admission) :=
  (sound.reject stored).local _

/-- An answer that the record bears out. -/
theorem Sound.resolve (owns : stage.owns = true → admission.stage.owns = true)
    (fits : Fits payloadHash state
      { admission with
        waiters := []
        stage }) (has : HasHash payloadHash state admission.submission.key
      admission.submission.payload)
    (outcome : ∀ record, admission.began = some record →
      snapshot = operationSnapshot admission.submission.key.id record 0) :
    Sound payloadHash
      (state.resolve payloadHash pid admission snapshot stage) := by
  have put : Sound payloadHash
      ((state.forget payloadHash pid admission).put pid
        { admission with
          waiters := []
          stage }) := by
    apply sound.forget.put stored owns
    exact fits.moves (.of_eq rfl) rfl
  have silent : ∀ key, ∀ event ∈
      admission.waiters.map (fun waiter =>
        (Event.answered admission.submission.key admission.began waiter
          snapshot : Event Payload Hash Result)),
      event.executes key = false := by
    intro key event member
    obtain ⟨waiter, -, rfl⟩ := List.mem_map.mp member
    rfl
  constructor
  · intro other second found
    have before := put.fits other second found
    refine ⟨before.owns, ?_, before.answering, before.began, before.waiters⟩
    intro started event member
    rcases List.mem_append.mp member with answer | earlier
    · exact silent _ event answer
    · exact before.mayStart started event earlier
  · exact put.unique
  · intro key
    simp only [Operations.resolve]
    rw [List.countP_append,
      List.countP_eq_zero.mpr fun event member => by
        rw [silent key event member]
        exact Bool.false_ne_true,
      Nat.zero_add]
    exact put.once key
  · intro key payload member
    rcases List.mem_append.mp member with answer | earlier
    · obtain ⟨waiter, -, impossible⟩ := List.mem_map.mp answer
      cases impossible
    · exact put.executed key payload earlier
  · intro key began waiter shown member
    rcases List.mem_append.mp member with answer | earlier
    · obtain ⟨asker, asks, same⟩ := List.mem_map.mp answer
      cases same
      have before := sound.fits pid admission stored
      constructor
      · obtain ⟨record, found, hash⟩ := has
        exact ⟨record, found, hash.trans (before.waiters waiter asks).symm⟩
      · intro record began
        obtain ⟨found, ended, -⟩ := before.began record began
        exact ⟨found, ended, outcome record began⟩
    · exact (put.answered key began waiter shown earlier).moves (.of_eq rfl)
  · exact put.fills

end

/-! ## One step -/

section

omit [DecidableEq Hash]

@[simp] theorem setRecord_admissions (key : OperationKey)
    (record : Option (OperationRecord Hash Result)) :
    (state.setRecord key record).admissions = state.admissions := by
  cases record <;> rfl

@[simp] theorem setRecord_history (key : OperationKey)
    (record : Option (OperationRecord Hash Result)) :
    (state.setRecord key record).history = state.history := by
  cases record <;> rfl

theorem Fits.not_began (fits : Fits payloadHash state admission)
    (beyond : ∀ record : OperationRecord Hash Result,
      ¬ admission.stage.Shows admission.submission.key record) :
    admission.began = none := by
  cases began : admission.began with
  | none => rfl
  | some record =>
    obtain ⟨-, -, shows_⟩ := fits.began record began
    exact absurd shows_ (beyond record)

/-- A stage that an owner goes on to without executing anew. -/
theorem Fits.goOn (fits : Fits payloadHash state admission)
    (owns : stage.owns = true → admission.stage.owns = true)
    (mayStart : stage.mayStart = true → admission.stage.mayStart = true)
    (silent : ∀ snapshot, stage ≠ .answering snapshot)
    (began : admission.began = none) :
    Fits payloadHash state { admission with stage } where
  owns := fun owned => fits.owns (owns owned)
  mayStart := fun started => fits.mayStart (mayStart started)
  answering := fun snapshot shown => absurd shown (silent snapshot)
  began := by
    intro record found
    have found : admission.began = some record := found
    rw [began] at found
    cases found
  waiters := fits.waiters

end

variable {record : OperationRecord Hash Result}

section

variable (sound : Sound payloadHash state)

include sound

theorem Sound.meet (stored : state.admissions pid = some admission)
    (found : state.records admission.submission.key = some record) :
    Sound payloadHash (state.meet payloadHash pid admission record now) := by
  have fits := sound.fits pid admission stored
  unfold Operations.meet
  split
  · exact sound.reject stored
  · rename_i same
    have has : HasHash payloadHash state admission.submission.key
        admission.submission.payload :=
      ⟨record, found, not_not.mp same⟩
    apply sound.put stored
    · intro owned
      cases owned
    · constructor
      · intro owned
        cases owned
      · intro started
        cases started
      · intro snapshot shown
        exact has
      · intro earlier began
        obtain ⟨kept, ended, -⟩ := fits.began earlier began
        refine ⟨kept, ended, .inr (.inr ?_)⟩
        rw [found] at kept
        cases kept
        rw [operationSnapshot_of_finished _ ended now 0]
      · exact fits.waiters

theorem Sound.claim (stored : state.admissions pid = some admission)
    (current : Bool) (now : Nat) (delivery : Delivery) :
    Sound payloadHash
      (state.claim payloadHash pid admission current now delivery) := by
  have fits := sound.fits pid admission stored
  unfold Operations.claim
  simp only
  split
  · rename_i record found
    exact sound.meet stored found
  · rename_i free
    split
    · exact sound.reject stored
    · have unowned : ∀ other second, state.admissions other = some second →
          second.stage.owns = true →
          second.submission.key ≠ admission.submission.key := by
        intro other second found owned sameKey
        obtain ⟨record, taken, -⟩ := (sound.fits other second found).owns owned
        rw [sameKey, free] at taken
        cases taken
      have created : ∀ record : OperationRecord Hash Result,
          record.status = .processing →
          Sound payloadHash
            (state.setRecord admission.submission.key (some record)) := by
        intro record processing
        apply sound.setRecord
        intro written same
        cases same
        rw [free]
        exact .create record processing
      cases delivery with
      | acknowledged =>
        apply Sound.local
        apply (created _ rfl).assign
        · constructor
          · intro _
            exact ⟨_, update_self _ _ _, rfl⟩
          · intro _ event member
            rw [setRecord_history] at member
            cases event with
            | executed key payload =>
              apply Bool.eq_false_iff.mpr
              intro same
              simp only [Event.executes, beq_iff_eq] at same
              subst same
              obtain ⟨record, taken, -⟩ :=
                sound.executed _ payload member
              rw [free] at taken
              cases taken
            | answered key began waiter snapshot => rfl
          · intro snapshot shown
            cases shown
          · intro record began
            obtain ⟨taken, -, -⟩ := fits.began record began
            rw [free] at taken
            cases taken
          · exact fits.waiters
        · intro _ other second _ found owned
          rw [setRecord_admissions] at found
          exact unowned other second found owned
        · apply (created _ rfl).joins
          · simpa using stored
          · rfl
          · rfl
      | lost =>
        exact (created _ rfl).reject (by simpa using stored)
      | again => exact created _ rfl

omit [DecidableEq Hash] in
theorem Sound.setOwned
    (keeps : ∀ data, (patch data).payloadHash = data.payloadHash) :
    Sound payloadHash
      (state.setRecord key
        (writeOwned executorId generation patch (state.records key))) := by
  apply sound.setRecord
  intro written writes
  exact recordMove_writeOwned keeps writes

omit [DecidableEq Hash] in
/-- The body is started, once for its operation. -/
theorem Sound.execute (stored : state.admissions pid = some admission)
    (checkpointing : admission.stage = .checkpointing) :
    Sound payloadHash
      { state.put pid { admission with stage := .executing } with
        history :=
          .executed admission.submission.key admission.submission.payload ::
            state.history } := by
  have fits := sound.fits pid admission stored
  have owned : admission.stage.owns = true := by
    rw [checkpointing]
    rfl
  have unstarted := fits.mayStart (by rw [checkpointing]; rfl)
  have began : admission.began = none := by
    apply fits.not_began
    rw [checkpointing]
    rintro record (shown | shown | shown) <;> cases shown
  have put : Sound payloadHash
      (state.put pid { admission with stage := .executing }) := by
    apply sound.put stored
    · intro _
      exact owned
    · apply fits.goOn (fun _ => owned) _ _ began
      · intro started
        cases started
      · intro snapshot shown
        cases shown
  constructor
  · intro other second found
    have before := put.fits other second found
    refine ⟨before.owns, ?_, before.answering, before.began, before.waiters⟩
    intro started event member
    rcases List.mem_cons.mp member with rfl | earlier
    · apply Bool.eq_false_iff.mpr
      intro same
      simp only [Event.executes, beq_iff_eq] at same
      have owns : second.stage.owns = true := by
        cases stage : second.stage <;> rw [stage] at started <;>
          first | rfl | cases started
      have samePid : other = pid := by
        apply put.unique other second pid _ found
          (by simp [Operations.put]; rfl) owns rfl
        exact same.symm
      subst samePid
      simp only [Operations.put, update_self, Option.some.injEq] at found
      subst found
      cases started
    · exact before.mayStart started event earlier
  · exact put.unique
  · intro key
    by_cases same : admission.submission.key = key
    · subst same
      have none_before :
          state.history.countP (Event.executes admission.submission.key) =
            0 := by
        apply List.countP_eq_zero.mpr
        intro event member
        rw [unstarted event member]
        exact Bool.false_ne_true
      rw [List.countP_cons, none_before]
      split <;> omega
    · rw [List.countP_cons_of_neg]
      · exact put.once key
      · simpa [Event.executes] using same
  · intro key payload member
    rcases List.mem_cons.mp member with same | earlier
    · cases same
      exact fits.owns owned
    · exact put.executed key payload earlier
  · intro key began waiter snapshot member
    rcases List.mem_cons.mp member with same | earlier
    · cases same
    · exact (put.answered key began waiter snapshot earlier).moves (.of_eq rfl)
  · exact put.fills

theorem Sound.submit {replica : Nat} {submission : Submission Payload}
    (taken : state.submit payloadHash pid replica submission = some next) :
    Sound payloadHash next := by
  unfold Operations.submit at taken
  simp only at taken
  split at taken
  · rename_i joined filled
    obtain ⟨admission, found, -, sameKey, sameHash⟩ :=
      sound.fills _ _ _ joined filled
    rw [found] at taken
    cases taken
    have fits := sound.fits joined admission found
    apply sound.put found id
    refine ⟨fits.owns, fits.mayStart, fits.answering, fits.began, ?_⟩
    intro waiter member
    rcases List.mem_cons.mp member with rfl | earlier
    · exact sameHash.symm
    · exact fits.waiters waiter earlier
  · simp only [ite_none_left_eq_some] at taken
    obtain ⟨unused, begun⟩ := taken
    cases begun
    have absent : state.admissions pid = none := by simpa using unused
    apply sound.assign
    · constructor
      · intro owned
        cases owned
      · intro started
        cases started
      · intro snapshot shown
        cases shown
      · intro record began
        obtain ⟨stored, ended⟩ := filter_eq_some_iff.mp began
        exact ⟨stored, ended, .inl rfl⟩
      · intro waiter member
        rw [List.mem_singleton] at member
        rw [member]
    · intro owned
      cases owned
    · intro other key hash joined filled
      by_cases same : (other, key, hash) =
          (replica, submission.key, payloadHash submission.payload)
      · rw [same, update_self] at filled
        cases filled
        cases same
        exact .inl ⟨rfl, rfl, rfl, rfl⟩
      · rw [update_of_ne same] at filled
        refine .inr ⟨?_, filled⟩
        rintro rfl
        obtain ⟨admission, found, -⟩ := sound.fills _ _ _ _ filled
        rw [absent] at found
        cases found

end

variable {label : Label Payload Result}

theorem Sound.proceed (sound : Sound payloadHash state)
    (stored : state.admissions pid = some admission)
    (taken : state.proceed payloadHash pid admission label = some next) :
    Sound payloadHash next := by
  have fits := sound.fits pid admission stored
  have notBegan (owned : admission.stage.owns = true) :
      admission.began = none := by
    apply fits.not_began
    intro record shown
    rcases shown with shown | shown | shown <;> rw [shown] at owned <;>
      cases owned
  unfold Operations.proceed at taken
  simp only at taken
  split at taken
  · rename_i current now record stage
    have owned : admission.stage.owns = true := by rw [stage]; rfl
    cases taken
    split
    · apply sound.resolve stored (fun _ => owned)
      · have goes : Fits payloadHash state
            { admission with stage := .checkpointing } := by
          apply fits.goOn (fun _ => owned) _ _ (notBegan owned)
          · intro _
            rw [stage]
            rfl
          · intro snapshot shown
            cases shown
        refine ⟨goes.owns, goes.mayStart, goes.answering, goes.began, ?_⟩
        intro waiter member
        cases member
      · exact fits.owns owned
      · intro earlier began
        rw [notBegan owned] at began
        cases began
    · have written : Sound payloadHash
          (state.setRecord admission.submission.key
            (writeOwned admission.replica 1 neverStarted
              (state.records admission.submission.key))) := by
        apply sound.setOwned
        intro data
        rfl
      apply written.leave
      simpa using stored
  · rename_i active delivered stage
    have owned : admission.stage.owns = true := by rw [stage]; rfl
    have storing (outcome : OperationOutcome Result) :
        Fits payloadHash state { admission with stage := .storing outcome } := by
      apply fits.goOn (fun _ => owned) _ _ (notBegan owned)
      · intro started
        cases started
      · intro snapshot shown
        cases shown
    split at taken
    · cases taken
      exact sound.put stored (fun _ => owned) (storing _)
    · split at taken
      · cases taken
        exact sound.put stored (fun _ => owned) (storing _)
      · rename_i record writes
        have move : RecordMove (state.records admission.submission.key)
            (some record) := by
          apply recordMove_writeOwned _ writes
          intro data
          rfl
        have written : Sound payloadHash
            (state.setRecord admission.submission.key (some record)) := by
          apply sound.setRecord
          intro other same
          cases same
          exact move
        cases taken
        split
        · exact written.execute stored stage
        · apply written.put stored (fun _ => owned)
          apply (storing _).moves
          · apply moves_setRecord
            intro other same
            cases same
            exact move
          · rfl
  · cases taken
    apply sound.setOwned
    intro data
    rfl
  · rename_i outcome stage
    have owned : admission.stage.owns = true := by rw [stage]; rfl
    cases taken
    apply sound.put stored (fun _ => owned)
    apply fits.goOn (fun _ => owned) _ _ (notBegan owned)
    · intro started
      cases started
    · intro snapshot shown
      cases shown
  · rename_i delivery outcome stage
    have written : Sound payloadHash
        (state.setRecord admission.submission.key
          (writeOwned admission.replica 1 (withOutcome outcome)
            (state.records admission.submission.key))) := by
      apply sound.setOwned
      intro data
      rfl
    cases taken
    split
    · exact written
    · apply written.leave
      simpa using stored
  · cases taken

omit [DecidableEq Hash] in
theorem Sound.crash (sound : Sound payloadHash state) (replica : Nat)
    (localExecutions : Nat × OperationKey → Bool) :
    Sound payloadHash
      { state with
        admissions := fun pid =>
          (state.admissions pid).filter fun admission =>
            admission.replica != replica
        fills := fun flight =>
          if flight.1 = replica then none else state.fills flight
        localExecutions } := by
  refine sound.moves (.of_eq rfl) rfl ?_ ?_
  · intro pid admission found
    exact (filter_eq_some_iff.mp found).1
  · intro other key hash joined filled
    simp only [ite_none_left_eq_some] at filled
    obtain ⟨kept, filled⟩ := filled
    obtain ⟨admission, found, sameReplica, facts⟩ :=
      sound.fills other key hash joined filled
    refine ⟨admission, ?_, sameReplica, facts⟩
    apply filter_eq_some_iff.mpr
    refine ⟨found, ?_⟩
    simpa [sameReplica] using kept

theorem moves_meet :
    Moves state (state.meet payloadHash pid admission record now) := by
  unfold Operations.meet
  split <;> exact .of_eq rfl

theorem moves_claim {current : Bool} {delivery : Delivery} :
    Moves state
      (state.claim payloadHash pid admission current now delivery) := by
  unfold Operations.claim
  simp only
  split
  · exact moves_meet
  · rename_i free
    split
    · exact .of_eq rfl
    · have created : Moves state
          (state.setRecord admission.submission.key
            (some (admission.submission.claimedRecord
              (payloadHash admission.submission.payload) admission.replica
              now))) := by
        apply moves_setRecord
        intro written same
        cases same
        rw [free]
        exact .create _ rfl
      cases delivery <;> exact created

theorem moves_proceed
    (taken : state.proceed payloadHash pid admission label = some next) :
    Moves state next := by
  have owned (patch : OperationRecord Hash Result →
      OperationRecord Hash Result)
      (keeps : ∀ data, (patch data).payloadHash = data.payloadHash) :
      Moves state
        (state.setRecord admission.submission.key
          (writeOwned admission.replica 1 patch
            (state.records admission.submission.key))) := by
    apply moves_setRecord
    intro written writes
    exact recordMove_writeOwned keeps writes
  unfold Operations.proceed at taken
  simp only at taken
  split at taken
  · cases taken
    split
    · exact .of_eq rfl
    · apply owned
      intro data
      rfl
  · split at taken
    · cases taken
      exact .of_eq rfl
    · split at taken
      · cases taken
        exact .of_eq rfl
      · rename_i record writes
        have move := owned (withPhase .executing) fun _ => rfl
        rw [writes] at move
        cases taken
        split <;> exact move
  · cases taken
    apply owned
    intro data
    rfl
  · cases taken
    exact .of_eq rfl
  · rename_i outcome stage
    have move := owned (withOutcome outcome) fun _ => rfl
    cases taken
    split <;> exact move
  · cases taken

theorem moves_submit {replica : Nat} {submission : Submission Payload}
    (taken : state.submit payloadHash pid replica submission = some next) :
    Moves state next := by
  simp only [Operations.submit] at taken
  split at taken
  · obtain ⟨admission, -, rfl⟩ := map_eq_some_iff.mp taken
    exact .of_eq rfl
  · simp only [ite_none_left_eq_some] at taken
    obtain ⟨-, begun⟩ := taken
    cases begun
    exact .of_eq rfl

omit [DecidableEq Hash] in
theorem moves_setWritten {record : Option (OperationRecord Hash Result)}
    {key : OperationKey} (sound : Sound payloadHash state)
    (move : ∀ written, record = some written →
      RecordMove (state.records key) (some written)) :
    Sound payloadHash (state.setRecord key record) ∧
      Moves state (state.setRecord key record) :=
  ⟨sound.setRecord move, moves_setRecord move⟩

/-- One step keeps the invariant, and creates a record as processing or changes
a processing one. -/
theorem Sound.step (sound : Sound payloadHash state)
    (taken : step payloadHash state label = some next) :
    Sound payloadHash next ∧ Moves state next := by
  cases label with
  | submit pid replica submission => exact ⟨sound.submit taken, moves_submit taken⟩
  | read pid current now =>
    simp only [Operations.step] at taken
    split at taken
    · rename_i admission stored
      have fits := sound.fits pid admission stored
      split at taken
      · rename_i record stage found
        cases taken
        exact ⟨sound.meet stored found, moves_meet⟩
      · rename_i stage absent
        cases taken
        split
        · refine ⟨sound.put stored ?_ ?_, .of_eq rfl⟩
          · intro owned
            cases owned
          · apply fits.goOn
            · intro owned
              cases owned
            · intro started
              cases started
            · intro snapshot shown
              cases shown
            · cases began : admission.began with
              | none => rfl
              | some record =>
                obtain ⟨there, -⟩ := fits.began record began
                rw [absent] at there
                cases there
        · exact ⟨sound.reject stored, .of_eq rfl⟩
      · cases taken
    · cases taken
  | fail pid =>
    simp only [Operations.step] at taken
    split at taken
    · rename_i admission stored
      simp only [ite_none_left_eq_some] at taken
      obtain ⟨-, rejected⟩ := taken
      cases rejected
      exact ⟨sound.reject stored, .of_eq rfl⟩
    · cases taken
  | answer pid =>
    simp only [Operations.step] at taken
    split at taken
    · rename_i admission stored
      have fits := sound.fits pid admission stored
      split at taken
      · rename_i snapshot stage
        cases taken
        refine ⟨sound.resolve stored ?_ ?_ ?_ ?_, .of_eq rfl⟩
        · intro owned
          cases owned
        · exact fits.done
        · exact fits.answering snapshot stage
        · intro record began
          obtain ⟨-, -, shown⟩ := fits.began record began
          rw [stage] at shown
          rcases shown with shown | shown | shown
          · cases shown
          · cases shown
          · cases shown
            rfl
      · cases taken
    · cases taken
  | dispatch pid current =>
    simp only [Operations.step] at taken
    split at taken
    · rename_i admission stored
      have fits := sound.fits pid admission stored
      split at taken
      · rename_i stage
        cases taken
        split
        · refine ⟨sound.put stored ?_ ?_, .of_eq rfl⟩
          · intro owned
            cases owned
          · apply fits.goOn
            · intro owned
              cases owned
            · intro started
              cases started
            · intro snapshot shown
              cases shown
            · apply fits.not_began
              intro record shown
              rw [stage] at shown
              rcases shown with shown | shown | shown <;> cases shown
        · exact ⟨sound.reject stored, .of_eq rfl⟩
      · cases taken
    · cases taken
  | claim pid current now delivery =>
    simp only [Operations.step] at taken
    split at taken
    · rename_i admission stored
      split at taken
      · cases taken
        exact ⟨sound.claim stored current now delivery, moves_claim⟩
      · cases taken
    · cases taken
  | begin pid current now | checkpoint pid active delivered
  | progress pid phase | finish pid outcome | store pid delivery =>
    simp only [Operations.step] at taken
    split at taken
    · rename_i admission stored
      exact ⟨sound.proceed stored taken, moves_proceed taken⟩
    · cases taken
  | poll replica key now =>
    cases taken
    apply moves_setWritten sound
    intro written writes
    exact recordMove_detectRecovery writes
  | recover replica request now current =>
    simp only [Operations.step, ite_none_left_eq_some] at taken
    obtain ⟨-, recovered⟩ := taken
    cases recovered
    apply moves_setWritten sound
    intro written writes
    exact recordMove_recoverOperation writes
  | crash replica =>
    cases taken
    exact ⟨sound.crash replica _, .of_eq rfl⟩

/-! ## Runs -/

/-- What operations keep between two states of a run. -/
structure Kept (payloadHash : Payload → Hash)
    (state last : Operations Payload Hash Result) : Prop where
  /-- No operation is executed twice. -/
  once : ∀ key, last.history.countP (Event.executes key) ≤ 1
  /-- A step creates a record as processing, or changes a processing one. -/
  moves : ∀ label next, step payloadHash last label = some next →
    Moves last next
  finished : ∀ key record, state.records key = some record →
    record.finished = true → last.records key = some record
  /-- Who is answered asked for what is executed. -/
  payload : ∀ key payload began waiter snapshot,
    .executed key payload ∈ last.history →
    .answered key began waiter snapshot ∈ last.history →
    waiter.payload = payload
  /-- An admission that began after the end answers with the outcome. -/
  outcome : ∀ key record waiter snapshot,
    .answered key (some record) waiter snapshot ∈ last.history →
    last.records key = some record ∧ record.finished = true ∧
      snapshot = operationSnapshot key.id record 0

theorem sound_of_steps
    (reached : (step payloadHash).Steps (fun _ _ => True) .empty state) :
    Sound payloadHash state := by
  apply reached.invariant sound_empty
  intro before label after sound _ taken
  exact (sound.step taken).1

theorem http_operations_run_once
    (collisionFree : Function.Injective payloadHash)
    (reached : (step payloadHash).Steps (fun _ _ => True) .empty state)
    {last : Operations Payload Hash Result}
    (later : (step payloadHash).Steps (fun _ _ => True) state last) :
    Kept payloadHash state last := by
  have sound : Sound payloadHash last := sound_of_steps (reached.trans later)
  constructor
  · exact sound.once
  · intro label next taken
    exact (sound.step taken).2
  · intro key record stored ended
    let holds (state : Operations Payload Hash Result) : Prop :=
      Sound payloadHash state ∧ state.records key = some record
    have kept : holds last := by
      apply later.invariant ⟨sound_of_steps reached, stored⟩
      rintro before label after ⟨sound, kept⟩ _ taken
      obtain ⟨sound', moves⟩ := sound.step taken
      exact ⟨sound', (moves key).finished kept ended⟩
    exact kept.2
  · intro key payload began waiter snapshot executed answered
    obtain ⟨record, stored, hash⟩ := sound.executed key payload executed
    obtain ⟨same, stored', hash'⟩ :=
      (sound.answered key began waiter snapshot answered).payload
    rw [stored] at stored'
    cases stored'
    apply collisionFree
    rw [← hash, ← hash']
  · intro key record waiter snapshot answered
    exact (sound.answered key (some record) waiter snapshot answered).outcome
      record rfl

/-- A small operation, with payloads that are their own hashes. -/
def smallSubmission : Submission Nat where
  key := ⟨.routeGeometryPreviews, "preview-0123456789"⟩
  payload := 7
  budgetMs := 1000
  adminUid := some "admin"

def smallStart : List (Label Nat Nat) :=
  [.submit 0 0 smallSubmission, .read 0 true 0, .dispatch 0 true,
    .claim 0 true 0 .acknowledged, .begin 0 true 0, .checkpoint 0 true true]

/-- It succeeds, and a retry on another replica reads it. -/
def smallRetry : List (Label Nat Nat) :=
  smallStart ++
    [.finish 0 { result := some 9 }, .store 0 .acknowledged,
      .submit 1 1 smallSubmission, .read 1 true 5, .answer 1]

/-- A retry reads the operation before it has finished, and is joined by
another one after that. -/
def smallJoin : List (Label Nat Nat) :=
  smallStart ++
    [.submit 1 0 smallSubmission, .read 1 true 5,
      .finish 0 { result := some 9 }, .store 0 .acknowledged,
      .submit 2 0 smallSubmission, .answer 1]

/-- The newest event answers a caller whose operation had finished when it
asked; the flags say whether its admission began after that too, and whether
it is shown the stored outcome. -/
def newestAnswer (state : Operations Nat Nat Nat) : Option (Bool × Bool) :=
  match state.history with
  | .answered key began waiter snapshot :: _ =>
    waiter.asked.map fun record =>
      (began == some record, snapshot == operationSnapshot key.id record 0)
  | _ => none

theorem exists_of_newestAnswer {state : Operations Nat Nat Nat}
    {began shown : Bool} (newest : newestAnswer state = some (began, shown)) :
    ∃ key begun waiter record snapshot,
      .answered key begun waiter snapshot ∈ state.history ∧
        waiter.asked = some record ∧ (begun == some record) = began ∧
        (snapshot == operationSnapshot key.id record 0) = shown := by
  unfold newestAnswer at newest
  split at newest
  · rename_i key begun waiter snapshot earlier log
    obtain ⟨record, asked, same⟩ := map_eq_some_iff.mp newest
    cases same
    refine ⟨key, begun, waiter, record, snapshot, ?_, asked, rfl, rfl⟩
    rw [log]
    exact List.mem_cons_self
  · cases newest

theorem exists_small_run (labels : List (Label Nat Nat)) (began shown : Bool)
    (decided : ((step (id : Nat → Nat)).run (fun _ _ => true) .empty
      labels).any (fun last =>
        newestAnswer last == some (began, shown)) = true) :
    ∃ last : Operations Nat Nat Nat,
      (step (id : Nat → Nat)).Steps (fun _ _ => True) .empty last ∧
        newestAnswer last = some (began, shown) := by
  obtain ⟨last, steps, newest⟩ := System.exists_of_run decided
  refine ⟨last, ?_, by simpa using newest⟩
  apply steps.mono
  intro state label passes
  trivial

/-- A retry of the finished operation, and what is kept of it. -/
theorem http_operations_run_once_retried :
    ∃ (last : Operations Nat Nat Nat) (key : OperationKey)
        (begun : Option (OperationRecord Nat Nat)) (waiter : Waiter Nat Nat Nat)
        (snapshot : OperationSnapshot Nat),
      .answered key begun waiter snapshot ∈ last.history ∧ begun.isSome ∧
        Kept (id : Nat → Nat) last last := by
  obtain ⟨last, steps, newest⟩ := exists_small_run smallRetry true true
    (by decide +kernel)
  obtain ⟨key, begun, waiter, record, snapshot, member, -, same, -⟩ :=
    exists_of_newestAnswer newest
  refine ⟨last, key, begun, waiter, snapshot, member, ?_, ?_⟩
  · rw [beq_iff_eq.mp same]
    rfl
  · apply http_operations_run_once
    · exact fun _ _ same => same
    · exact steps
    · exact .refl last

/-- Every retry of a finished operation is shown the stored outcome. -/
def RetriesShown (last : Operations Payload Hash Result) : Prop :=
  ∀ key began waiter record snapshot,
    .answered key began waiter snapshot ∈ last.history →
    waiter.asked = some record →
    snapshot = operationSnapshot key.id record 0

/-- The retry that joins an admission under way is told that its finished
operation is still processing. -/
theorem joined_retry_misses_outcome :
    ¬ ∀ state last : Operations Nat Nat Nat,
      (step (id : Nat → Nat)).Steps (fun _ _ => True) .empty state →
      (step (id : Nat → Nat)).Steps (fun _ _ => True) state last →
      Kept (id : Nat → Nat) state last ∧ RetriesShown last := by
  intro shown
  obtain ⟨last, steps, newest⟩ := exists_small_run smallJoin false false
    (by decide +kernel)
  obtain ⟨key, begun, waiter, record, snapshot, member, asked, -, wrong⟩ :=
    exists_of_newestAnswer newest
  have right := (shown last last steps (.refl last)).2 key begun waiter record
    snapshot member asked
  rw [right] at wrong
  simp at wrong

end Operations

end Eki.Http
