import Eki.Feedback.Submission
import Mathlib.Algebra.Order.Field.Rat
import Mathlib.Tactic.Linarith

/-!
# What one step does to feedback

A client's commit, a submission at the backend and a review each change the two
collections for one user.  A commit is followed write by write: whatever the
writes are, every intermediate state is one that the rules have accounted for.
-/

namespace Eki.Feedback

open Function (update update_of_ne update_self)

/-- A review leaves the author, the content and the time. -/
def Reviewed (old new : Data) : Prop :=
  ∀ name, name ∉ Judged.reviewFields → new.field name = old.field name

theorem Reviewed.refl (data : Data) : Reviewed data data :=
  fun _ _ => rfl

theorem Reviewed.trans {first second third : Data}
    (front : Reviewed first second) (back : Reviewed second third) :
    Reviewed first third :=
  fun name outside => (back name outside).trans (front name outside)

structure Written (uid : String) (time : Nat) (feedback : Data) : Prop where
  author : feedback.field "userId" = some (.string uid)
  timestamp : feedback.field "timestamp" = some (.timestamp time)

variable {uid : String} {time : Nat} {old : Data}

theorem Written.reviewed {new : Data} (written : Written uid time old)
    (reviewed : Reviewed old new) :
    Written uid time new where
  author := (reviewed "userId" (by decide)).trans written.author
  timestamp := (reviewed "timestamp" (by decide)).trans written.timestamp

structure Stamped (uid : String) (time : Nat) (cooldown : Data) : Prop where
  owner : cooldown.field "userId" = some (.string uid)
  stamp : cooldown.field "lastSubmittedAt" = some (.timestamp time)

/-- Any stamp of the user is a cooldown old. -/
def Rested (collections : Collections) (uid : String) (time : Nat) : Prop :=
  ∀ cooldown last, collections.cooldowns uid = some cooldown →
    cooldown.field "lastSubmittedAt" = some (.timestamp last) →
    last + feedbackCooldownMs ≤ time

/-- What a step of one user may change. -/
structure Change (uid : String) (time : Nat) (admin : Prop)
    (before after : Collections) : Prop where
  kept : ∀ id old, before.feedbacks id = some old →
    ∃ new, after.feedbacks id = some new ∧ Reviewed old new ∧
      (new = old ∨ admin)
  created : ∀ id new, before.feedbacks id = none →
    after.feedbacks id = some new →
      Written uid time new ∧ Rested before uid time ∧
        ∃ cooldown, after.cooldowns uid = some cooldown ∧
          Stamped uid time cooldown
  one : ∀ first second, before.feedbacks first = none →
    before.feedbacks second = none → (after.feedbacks first).isSome = true →
    (after.feedbacks second).isSome = true → first = second
  cooldowns : ∀ owner, after.cooldowns owner = before.cooldowns owner ∨
    owner = uid ∧ Rested before uid time ∧
      ∃ cooldown, after.cooldowns owner = some cooldown ∧
        Stamped uid time cooldown

namespace Change

theorem refl (uid : String) (time : Nat) (admin : Prop)
    (collections : Collections) :
    Change uid time admin collections collections where
  kept _ old found := ⟨old, found, .refl old, .inl rfl⟩
  created _ _ absent found := by
    rw [absent] at found
    cases found
  one first _ absent _ found _ := by
    rw [absent] at found
    cases found
  cooldowns _ := .inl rfl

end Change

/-! ## Client commits -/

namespace Judged

variable {judged : Judged}

theorem rested_of_ready (ready : judged.feedbackCooldownReady uid = true) :
    Rested judged.before uid judged.time := by
  intro cooldown last found stamp
  rw [feedbackCooldownReady, found, Option.all_some, readyAt, stamp] at ready
  simpa using ready

variable {id : String} {data : Data}

theorem of_createsFeedback (creates : judged.createsFeedback id data = true) :
    Written judged.caller.uid judged.time data ∧
      judged.feedbackCooldownReady judged.caller.uid = true ∧
      ∃ cooldown, judged.after.cooldowns judged.caller.uid = some cooldown ∧
        cooldown.field "feedbackId" = some (.string id) ∧
        cooldown.field "lastSubmittedAt" = some (.timestamp judged.time) := by
  simp only [createsFeedback, validFeedback, Bool.and_eq_true, beq_iff_eq,
    Option.any_eq_true] at creates
  obtain ⟨⟨⟨-, valid⟩, ready⟩, cooldown, found, names, stamp⟩ := creates
  obtain ⟨⟨⟨⟨⟨⟨⟨⟨-, -⟩, author⟩, -⟩, -⟩, timestamp⟩, -⟩, -⟩, -⟩ := valid
  exact ⟨⟨author, timestamp⟩, ready, cooldown, found, names, stamp⟩

theorem of_updatesFeedback (updates : judged.updatesFeedback old data = true) :
    Reviewed old data ∧ judged.surroundings.isAdmin judged.caller = true := by
  simp only [updatesFeedback, Bool.and_eq_true] at updates
  obtain ⟨⟨⟨⟨admin, few⟩, -⟩, -⟩, -⟩ := updates
  exact ⟨fun name outside => Data.field_of_not_affected few outside, admin⟩

theorem of_stampsCooldown (stamps : judged.stampsCooldown uid data = true) :
    uid = judged.caller.uid ∧
      judged.feedbackCooldownReady judged.caller.uid = true ∧
      Stamped judged.caller.uid judged.time data := by
  simp only [stampsCooldown, Bool.and_eq_true, beq_iff_eq] at stamps
  obtain ⟨⟨⟨⟨⟨⟨own, ready⟩, -⟩, -⟩, owner⟩, stamp⟩, -⟩ := stamps
  subst own
  exact ⟨rfl, ready, owner, stamp⟩

/-- The documents between two writes of a commit. -/
structure Between (judged : Judged) (current : Collections) : Prop where
  kept : ∀ id old, judged.before.feedbacks id = some old →
    ∃ new, current.feedbacks id = some new ∧ Reviewed old new ∧
      (new = old ∨ judged.surroundings.isAdmin judged.caller = true)
  created : ∀ id new, judged.before.feedbacks id = none →
    current.feedbacks id = some new →
      Written judged.caller.uid judged.time new ∧
        judged.feedbackCooldownReady judged.caller.uid = true ∧
        ∃ cooldown, judged.after.cooldowns judged.caller.uid = some cooldown ∧
          cooldown.field "feedbackId" = some (.string id) ∧
          cooldown.field "lastSubmittedAt" = some (.timestamp judged.time)
  cooldowns : ∀ owner,
    current.cooldowns owner = judged.before.cooldowns owner ∨
      owner = judged.caller.uid ∧
        judged.feedbackCooldownReady judged.caller.uid = true ∧
        ∃ cooldown, current.cooldowns owner = some cooldown ∧
          Stamped judged.caller.uid judged.time cooldown

namespace Between

theorem start (judged : Judged) : Between judged judged.before where
  kept _ old found := ⟨old, found, .refl old, .inl rfl⟩
  created _ _ absent found := by
    rw [absent] at found
    cases found
  cooldowns _ := .inl rfl

variable {current : Collections}

variable (between : Between judged current)

include between

theorem creates (absent : current.feedbacks id = none)
    (allowed : judged.createsFeedback id data = true) :
    Between judged (current.write ⟨.feedback id, some data⟩) where
  kept := by
    intro other old found
    obtain ⟨new, present, reviewed⟩ := between.kept other old found
    have apart : other ≠ id := by
      intro same
      rw [same, absent] at present
      cases present
    refine ⟨new, ?_, reviewed⟩
    exact (update_of_ne apart _ _).trans present
  created := by
    intro other new fresh found
    by_cases same : other = id
    · subst same
      have written : some data = some new :=
        (update_self other _ _).symm.trans found
      cases written
      exact of_createsFeedback allowed
    · apply between.created other new fresh
      exact (update_of_ne same _ _).symm.trans found
  cooldowns := between.cooldowns

theorem updates (present : current.feedbacks id = some old)
    (allowed : judged.updatesFeedback old data = true) :
    Between judged (current.write ⟨.feedback id, some data⟩) where
  kept := by
    intro other first found
    obtain ⟨new, now, reviewed, changed⟩ := between.kept other first found
    obtain ⟨later, admin⟩ := of_updatesFeedback allowed
    by_cases same : other = id
    · subst same
      rw [present] at now
      cases now
      refine ⟨data, update_self other _ _, reviewed.trans later, ?_⟩
      exact .inr admin
    · refine ⟨new, ?_, reviewed, changed⟩
      exact (update_of_ne same _ _).trans now
  created := by
    intro other new fresh found
    by_cases same : other = id
    · subst same
      have written : some data = some new :=
        (update_self other _ _).symm.trans found
      cases written
      obtain ⟨earlier, rest⟩ := between.created other old fresh present
      exact ⟨earlier.reviewed (of_updatesFeedback allowed).1, rest⟩
    · apply between.created other new fresh
      exact (update_of_ne same _ _).symm.trans found
  cooldowns := between.cooldowns

theorem stamps (allowed : judged.stampsCooldown uid data = true) :
    Between judged (current.write ⟨.cooldown uid, some data⟩) where
  kept := between.kept
  created := between.created
  cooldowns := by
    intro owner
    by_cases same : owner = uid
    · subst same
      right
      obtain ⟨own, ready, stamped⟩ := of_stampsCooldown allowed
      exact ⟨own, ready, data, update_self owner _ _, stamped⟩
    · have kept : (current.write ⟨.cooldown uid, some data⟩).cooldowns owner =
          current.cooldowns owner := update_of_ne same _ _
      rw [kept]
      exact between.cooldowns owner

theorem write {change : Write}
    (allowed : judged.allows current change = true) :
    Between judged (current.write change) := by
  obtain ⟨target, contents⟩ := change
  cases contents with
  | none => cases allowed
  | some data =>
    cases target with
    | feedback id =>
      cases found : current.feedbacks id with
      | none =>
        apply between.creates found
        simpa [allows, found] using allowed
      | some old =>
        apply between.updates found
        simpa [allows, found] using allowed
    | cooldown uid => exact between.stamps allowed

theorem writeAll {changes : List Write}
    (permitted : judged.permits current changes = true) :
    Between judged (current.writeAll changes) := by
  induction changes generalizing current with
  | nil => exact between
  | cons change rest induction =>
    simp only [permits, Bool.and_eq_true] at permitted
    exact induction (between.write permitted.1) permitted.2

end Between

end Judged

variable {surroundings : Surroundings} {before after : Collections}

theorem change_of_commit {caller : Caller} {changes : List Write} (committed :
      commit surroundings caller time before changes = some after) :
    Change caller.uid time (surroundings.isAdmin caller = true) before
      after := by
  simp only [commit] at committed
  split at committed
  · rename_i permitted
    cases committed
    have done := (Judged.Between.start _).writeAll permitted
    have stamped : ∀ {cooldown : Data},
        Judged.feedbackCooldownReady ⟨surroundings, caller, time, before,
          before.writeAll changes⟩ caller.uid = true →
        (before.writeAll changes).cooldowns caller.uid = some cooldown →
        cooldown.field "lastSubmittedAt" = some (.timestamp time) →
        Stamped caller.uid time cooldown := by
      intro cooldown ready found stamp
      rcases done.cooldowns caller.uid with same | changed
      · -- The stamp would be as old as itself.
        rw [found] at same
        have old : time + feedbackCooldownMs ≤ time :=
          Judged.rested_of_ready ready cooldown time same.symm stamp
        have positive : 0 < feedbackCooldownMs := by decide
        omega
      · obtain ⟨-, -, written, now, stamped⟩ := changed
        rw [found] at now
        cases now
        exact stamped
    apply Change.mk
    · exact done.kept
    · intro id new absent found
      obtain ⟨written, ready, cooldown, now, -, stamp⟩ :=
        done.created id new absent found
      exact ⟨written, Judged.rested_of_ready ready, cooldown, now,
        stamped ready now stamp⟩
    · intro first second absent missing found present
      obtain ⟨new, found⟩ := Option.isSome_iff_exists.mp found
      obtain ⟨other, present⟩ := Option.isSome_iff_exists.mp present
      obtain ⟨-, -, cooldown, now, names, -⟩ :=
        done.created first new absent found
      obtain ⟨-, -, again, same, also, -⟩ :=
        done.created second other missing present
      rw [now] at same
      cases same
      rw [names] at also
      simpa using also
    · intro owner
      rcases done.cooldowns owner with same | changed
      · exact .inl same
      · obtain ⟨own, ready, stamped⟩ := changed
        exact .inr ⟨own, Judged.rested_of_ready ready, stamped⟩
  · cases committed

theorem cooldown_writeAll {changes : List Write} {cooldown : Data}
    (found : (before.writeAll changes).cooldowns uid = some cooldown) :
    before.cooldowns uid = some cooldown ∨
      (⟨.cooldown uid, some cooldown⟩ : Write) ∈ changes := by
  induction changes generalizing before with
  | nil => exact .inl found
  | cons change rest induction =>
    rcases induction found with earlier | later
    · obtain ⟨target, contents⟩ := change
      cases target with
      | feedback id => exact .inl earlier
      | cooldown owner =>
        by_cases same : uid = owner
        · subst same
          have written : contents = some cooldown :=
            (update_self uid _ _).symm.trans earlier
          rw [written]
          exact .inr List.mem_cons_self
        · left
          exact (update_of_ne same _ _).symm.trans earlier
    · exact .inr (List.mem_cons_of_mem _ later)

/-! ## The backend -/

theorem rested_of_not_coolsDown {collections : Collections} {now : Int}
    (reads : now ≤ time)
    (quiet : coolsDown ((collections.cooldowns uid).bind fun cooldown =>
      valueToMillis (cooldown.field "lastSubmittedAt")) (now : ℚ) = false) :
    Rested collections uid time := by
  intro cooldown last found stamp
  rw [found, Option.bind_some, stamp] at quiet
  simp only [valueToMillis, coolsDown, Option.any_some,
    decide_eq_false_iff_not, not_lt] at quiet
  have apart : ((last + feedbackCooldownMs : Nat) : ℚ) ≤ (now : ℚ) := by
    push_cast
    linarith
  have apart : ((last + feedbackCooldownMs : Nat) : Int) ≤ now := by
    exact_mod_cast apart
  omega

theorem change_of_submit {tools : Tools} {requestId : String}
    {tokenName : Option String} {submission : FeedbackSubmission} {now : Int}
    (reads : now ≤ time)
    (submitted : Backend.postFeedback tools surroundings before uid tokenName
      submission requestId now time = .ok (.stored after)) :
    Change uid time False before after := by
  obtain ⟨profile, rideContext, -, -, -, absent, -, allowed, rfl⟩ :=
    Backend.of_stored submitted
  have rested := rested_of_not_coolsDown reads
    (evaluateFeedback_allowed.mp allowed).2.1
  have stamped : Stamped uid time (Backend.cooldownDocument uid time) :=
    ⟨rfl, rfl⟩
  have written : Written uid time (Backend.feedbackDocument tools profile uid
      tokenName submission time) := ⟨rfl, rfl⟩
  have feedbacks : (Backend.store tools before profile uid tokenName submission
      requestId time).feedbacks = update before.feedbacks
        (Backend.feedbackId tools uid requestId)
        (some (Backend.feedbackDocument tools profile uid tokenName submission
          time)) := rfl
  have cooldowns : (Backend.store tools before profile uid tokenName submission
      requestId time).cooldowns = update before.cooldowns uid
        (some (Backend.cooldownDocument uid time)) := rfl
  have fresh : ∀ id new, before.feedbacks id = none →
      (Backend.store tools before profile uid tokenName submission requestId
        time).feedbacks id = some new →
      id = Backend.feedbackId tools uid requestId ∧
        new = Backend.feedbackDocument tools profile uid tokenName submission
          time := by
    intro id new missing found
    rw [feedbacks] at found
    by_cases same : id = Backend.feedbackId tools uid requestId
    · rw [same, update_self] at found
      cases found
      exact ⟨same, rfl⟩
    · rw [update_of_ne same, missing] at found
      cases found
  apply Change.mk
  · intro id old found
    have apart : id ≠ Backend.feedbackId tools uid requestId := by
      intro same
      rw [same, absent] at found
      cases found
    refine ⟨old, ?_, .refl old, .inl rfl⟩
    rw [feedbacks, update_of_ne apart]
    exact found
  · intro id new missing found
    obtain ⟨-, rfl⟩ := fresh id new missing found
    refine ⟨written, rested, _, ?_, stamped⟩
    rw [cooldowns, update_self]
  · intro first second missing absent found present
    obtain ⟨new, found⟩ := Option.isSome_iff_exists.mp found
    obtain ⟨other, present⟩ := Option.isSome_iff_exists.mp present
    obtain ⟨same, -⟩ := fresh first new missing found
    obtain ⟨also, -⟩ := fresh second other absent present
    rw [same, also]
  · intro owner
    rw [cooldowns]
    by_cases same : owner = uid
    · subst same
      right
      exact ⟨rfl, rested, _, update_self owner _ _, stamped⟩
    · left
      exact update_of_ne same _ _

theorem Change.review {id : String} {admin : Prop} {new : Data}
    (authorized : admin) (present : before.feedbacks id = some old)
    (reviewed : Reviewed old new) :
    Change uid time admin before (before.write ⟨.feedback id, some new⟩) := by
  have feedbacks : (before.write ⟨.feedback id, some new⟩).feedbacks =
      update before.feedbacks id (some new) := rfl
  have nothing : ∀ other, before.feedbacks other = none →
      (before.write ⟨.feedback id, some new⟩).feedbacks other = none := by
    intro other missing
    have apart : other ≠ id := by
      intro same
      rw [same, present] at missing
      cases missing
    rw [feedbacks, update_of_ne apart]
    exact missing
  apply Change.mk
  · intro other stored found
    rw [feedbacks]
    by_cases same : other = id
    · subst same
      rw [present] at found
      cases found
      exact ⟨new, update_self other _ _, reviewed, .inr authorized⟩
    · refine ⟨stored, ?_, .refl stored, .inl rfl⟩
      exact (update_of_ne same _ _).trans found
  · intro other stored missing found
    rw [nothing other missing] at found
    cases found
  · intro first _ missing _ found _
    rw [nothing first missing] at found
    cases found
  · exact fun _ => .inl rfl

theorem change_of_review {caller : Caller} {feedbackId status : String}
    {changed : Bool}
    (reviewed : Backend.updateFeedbackStatus surroundings before caller
      feedbackId status time = .ok (changed, after)) :
    Change caller.uid time
      (Backend.requireAdmin surroundings caller = true) before after := by
  unfold Backend.updateFeedbackStatus at reviewed
  split at reviewed
  · cases reviewed
  · rename_i admin
    split at reviewed
    · cases reviewed
    · split at reviewed
      · cases reviewed
      · rename_i data found
        split at reviewed
        · cases reviewed
          exact .refl caller.uid time _ before
        · cases reviewed
          apply Change.review (by simpa using admin) found
          intro name outside
          apply Data.field_update
          simp only [Judged.reviewFields, List.mem_cons, List.not_mem_nil,
            or_false, not_or] at outside
          rw [List.lookup_cons, beq_false_of_ne outside.1, List.lookup_cons,
            beq_false_of_ne outside.2.1, List.lookup_cons,
            beq_false_of_ne outside.2.2]
          rfl

end Eki.Feedback
