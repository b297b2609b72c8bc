import Eki.Feedback.Submission
import Mathlib.Algebra.Order.Field.Rat
import Mathlib.Tactic.Linarith

/-!
# Two paths and one policy

The backend and the browser accept the same submissions and derive the same
identifiers and hashes, up to two differences.  The browser leaves the rating
out of the hash of general feedback, where the backend keeps it.  And the rules
count every run of characters between RE2's white space as a word, so that a
comment may have more words for them than it has for the backend.
-/

namespace Eki.Feedback

open List (lookup_cons)
open Bool (and_eq_true not_eq_false not_eq_true' or_eq_true)

/-- No cooldown runs, by the server's clock or by the device's. -/
def NoActiveCooldown (collections : Collections) (uid : String)
    (deviceNow : Int) (time : Nat) : Prop :=
  ∀ cooldown, collections.cooldowns uid = some cooldown →
    ∃ last : Nat, cooldown.field "lastSubmittedAt" = some (.timestamp last) ∧
      last + feedbackCooldownMs ≤ time ∧
      (deviceNow < last ∨ last + feedbackCooldownMs ≤ deviceNow)

/-- A user's submission, on either path. -/
structure Attempt where
  tools : Tools
  surroundings : Surroundings
  collections : Collections
  caller : Caller
  tokenName : Option String
  submission : FeedbackSubmission
  requestId : String
  deviceNow : Int
  time : Nat

namespace Attempt

variable (attempt : Attempt)

def onBackend (attempt : Attempt) :
    Except Backend.FeedbackPolicyError Submitted :=
  Backend.postFeedback attempt.tools attempt.surroundings attempt.collections
    attempt.caller.uid attempt.tokenName attempt.submission attempt.requestId
    attempt.time attempt.time

def onBrowser (attempt : Attempt) : Except Browser.FeedbackError Submitted :=
  Browser.submitFeedback attempt.tools attempt.surroundings attempt.collections
    attempt.caller attempt.submission attempt.requestId attempt.deviceNow
    attempt.time

/-- The same request again, later and on other documents. -/
def again (collections : Collections) (deviceNow : Int) (time : Nat) :
    Attempt :=
  { attempt with
    collections := collections, deviceNow := deviceNow, time := time }

/-- Both paths store the submission or neither does, under the same identifier
and hash, and each recognises what the other stored. -/
structure OnePolicy : Prop where
  stored : (∃ next, attempt.onBrowser = .ok (.stored next)) ↔
    ∃ next, attempt.onBackend = .ok (.stored next)
  same_id :
    Browser.feedbackId attempt.tools attempt.caller.uid attempt.requestId =
      Backend.feedbackId attempt.tools attempt.caller.uid attempt.requestId
  same_hash : Browser.requestHash attempt.tools attempt.submission =
    Backend.requestHash attempt.tools attempt.submission
  retried_on_backend : ∀ next, attempt.onBrowser = .ok (.stored next) →
    ∀ deviceNow time,
      (attempt.again next deviceNow time).onBackend = .ok .duplicate
  retried_on_browser : ∀ next, attempt.onBackend = .ok (.stored next) →
    ∀ deviceNow time,
      (attempt.again next deviceNow time).onBrowser = .ok .duplicate

/-! ## What is acceptable -/

/-- A ride that the user may review with this rating. -/
structure RideAcceptable : Prop where
  ids : Backend.rideIdsSafe attempt.submission = true
  rating : attempt.submission.rating = .null ∨
    attempt.submission.rating.stars = true
  session : ∃ session, attempt.submission.sessionId.bind
      attempt.surroundings.sessions = some session ∧
    session.status = some (.string "completed") ∧
    session.busId = attempt.submission.busId.map .string ∧
    session.driverId = attempt.submission.driverId.map .string ∧
    Backend.hasManifestPassenger session attempt.caller.uid = true

/-- What the backend asks of a submission when no cooldown runs. -/
structure Acceptable : Prop where
  requestId : matchesId 16 attempt.requestId = true
  profile : (attempt.surroundings.profiles attempt.caller.uid).isSome = true
  unused : attempt.collections.feedbacks
    (Backend.feedbackId attempt.tools attempt.caller.uid attempt.requestId) =
      none
  words : wordCount (trim attempt.submission.comment) ≤ feedbackWordLimit
  length : utf16Length (trim attempt.submission.comment) ≤ feedbackCommentMax
  something : trim attempt.submission.comment ≠ "" ∨
    attempt.submission.type = .ride ∧ attempt.submission.rating ≠ .null
  ride : attempt.submission.type = .ride → attempt.RideAcceptable

/-- No number stands in for a rating of general feedback. -/
def RatedByRide : Prop :=
  attempt.submission.type = .ride ∨
    ∀ value, attempt.submission.rating ≠ .finite value

def FewForRules : Prop :=
  Words.count re2Space (trim attempt.submission.comment).toList ≤
    feedbackWordLimit

end Attempt

-- A no-break space between two words is a third word for the rules.
example :
    let comment := trim (String.ofList
      ['a', Char.ofNat 0x20, Char.ofNat 0xa0, Char.ofNat 0x20, 'b'])
    wordCount comment = 2 ∧ Words.count re2Space comment.toList = 3 := by
  decide +kernel

/-! ## The backend -/

/-- A list of checks finds nothing when none of them does. -/
theorem guard_eq_none_iff {α : Type} {p : Prop} [Decidable p] {fault : α}
    {rest : Option α} :
    (if p then some fault else rest) = none ↔ ¬p ∧ rest = none := by
  split <;> simp [*]

variable {rating : Rating}

theorem contentFault_eq_none_iff {kind : FeedbackKind} {comment : String} :
    contentFault kind comment rating = none ↔
      wordCount (trim comment) ≤ feedbackWordLimit ∧
        utf16Length comment ≤ feedbackCommentMax ∧
        (trim comment ≠ "" ∨ kind = .ride ∧ rating ≠ .null) ∧
        (kind = .ride → rating = .null ∨ rating.stars = true) := by
  simp only [contentFault]
  generalize feedbackWordLimit = wordLimit
  generalize feedbackCommentMax = commentMax
  cases kind with
  | general =>
    simp only [guard_eq_none_iff, or_eq_true, decide_eq_true_eq, not_or,
      Nat.not_lt]
    grind
  | ride =>
    simp only [guard_eq_none_iff, or_eq_true, decide_eq_true_eq, not_or,
      Nat.not_lt, and_eq_true]
    grind

theorem rideFault_eq_none_iff {rideContext : RideContext} :
    rideFault rideContext = none ↔
      rideContext.isSessionPassenger = true ∧
        rideContext.sessionCompleted = true ∧
        rideContext.busMatches = true ∧ rideContext.driverMatches = true := by
  simp only [rideFault, guard_eq_none_iff, not_eq_true', or_eq_true,
    not_or, not_eq_false, and_true]

variable {collections : Collections} {uid : String} {deviceNow : Int}
  {time : Nat}

theorem NoActiveCooldown.coolsDown
    (ready : NoActiveCooldown collections uid deviceNow time) :
    coolsDown ((collections.cooldowns uid).bind fun cooldown =>
      valueToMillis (cooldown.field "lastSubmittedAt")) ((time : Int) : ℚ) =
        false := by
  cases found : collections.cooldowns uid with
  | none => rfl
  | some cooldown =>
    obtain ⟨last, stamp, old, -⟩ := ready cooldown found
    have apart : ((last + feedbackCooldownMs : Nat) : ℚ) ≤ (time : Nat) := by
      exact_mod_cast old
    push_cast at apart
    simp only [Option.bind_some, stamp, valueToMillis, Feedback.coolsDown,
      Option.any_some, decide_eq_false_iff_not, not_lt, Int.cast_natCast]
    linarith

variable {attempt : Attempt}

theorem rideContextFor_ready (ids : attempt.submission.type = .ride →
      Backend.rideIdsSafe attempt.submission = true)
    (rating : attempt.submission.type = .ride →
      attempt.submission.rating = .null ∨
        attempt.submission.rating.stars = true) :
    (∃ rideContext, Backend.rideContextFor attempt.surroundings
        attempt.caller.uid attempt.submission = some rideContext ∧
      (attempt.submission.type = .ride → rideFault rideContext = none)) ↔
    (attempt.submission.type = .ride → attempt.RideAcceptable) := by
  unfold Backend.rideContextFor
  cases kind : attempt.submission.type with
  | general => simp
  | ride =>
    simp only [forall_const]
    constructor
    · intro found
      obtain ⟨rideContext, found, faultless⟩ := found
      obtain ⟨session, stored, rfl⟩ := Option.map_eq_some_iff.mp found
      obtain ⟨passenger, completed, bus, driver⟩ :=
        rideFault_eq_none_iff.mp faultless
      refine ⟨ids kind, rating kind, session, stored, ?_, ?_, ?_, passenger⟩
      · exact eq_of_beq completed
      · exact eq_of_beq bus
      · exact eq_of_beq driver
    · intro acceptable
      obtain ⟨session, stored, completed, bus, driver, passenger⟩ :=
        acceptable.session
      refine ⟨_, by rw [stored]; rfl, ?_⟩
      apply rideFault_eq_none_iff.mpr
      exact ⟨passenger, beq_of_eq completed, beq_of_eq bus, beq_of_eq driver⟩

theorem Attempt.Acceptable.safe (acceptable : attempt.Acceptable) :
    ¬(decide (attempt.submission.type = .ride) &&
      !Backend.rideIdsSafe attempt.submission) = true := by
  simp only [and_eq_true, decide_eq_true_eq, not_eq_true', not_and,
    not_eq_false]
  intro kind
  exact (acceptable.ride kind).ids

theorem Attempt.Acceptable.onBackend
    (ready : NoActiveCooldown attempt.collections attempt.caller.uid
      attempt.deviceNow attempt.time) (acceptable : attempt.Acceptable) :
    ∃ profile, attempt.surroundings.profiles attempt.caller.uid =
        some profile ∧
      attempt.onBackend = .ok (.stored (Backend.store attempt.tools
        attempt.collections profile attempt.caller.uid attempt.tokenName
        attempt.submission attempt.requestId attempt.time)) := by
  obtain ⟨profile, stored⟩ := Option.isSome_iff_exists.mp acceptable.profile
  refine ⟨profile, stored, ?_⟩
  obtain ⟨rideContext, ride, faultless⟩ := (rideContextFor_ready
    (fun kind => (acceptable.ride kind).ids)
    (fun kind => (acceptable.ride kind).rating)).mpr acceptable.ride
  have content : contentFault attempt.submission.type
      (trim attempt.submission.comment) attempt.submission.rating = none := by
    apply contentFault_eq_none_iff.mpr
    rw [trim_trim]
    exact ⟨acceptable.words, acceptable.length, acceptable.something,
      fun kind => (acceptable.ride kind).rating⟩
  have allowed := evaluateFeedback_allowed.mpr
    ⟨content, ready.coolsDown, faultless⟩
  unfold Attempt.onBackend Backend.postFeedback Backend.submitTransaction
  simp only [acceptable.requestId, Bool.not_true, Bool.false_eq_true, if_false,
    if_neg acceptable.safe, stored, acceptable.unused, ride, allowed]

theorem acceptable_of_onBackend {next : Collections}
    (submitted : attempt.onBackend = .ok (.stored next)) :
    attempt.Acceptable := by
  obtain ⟨profile, rideContext, request, ids, found, unused, ride, allowed,
    -⟩ :=
    Backend.of_stored submitted
  obtain ⟨content, -, faultless⟩ := evaluateFeedback_allowed.mp allowed
  obtain ⟨few, brief, something, rating⟩ := contentFault_eq_none_iff.mp content
  rw [trim_trim] at few something
  apply Attempt.Acceptable.mk
  · exact request
  · rw [found]
    rfl
  · exact unused
  · exact few
  · exact brief
  · exact something
  · exact (rideContextFor_ready ids rating).mp ⟨rideContext, ride, faultless⟩

/-! ## The browser -/

theorem validUserName_userName (profile : Data) :
    Judged.validUserName profile (Browser.userName profile) = true := by
  have passenger : Judged.validUserName profile "Passenger" = true := by
    simp only [Judged.validUserName, BEq.rfl, Bool.true_or, Bool.and_true,
      and_eq_true, decide_eq_true_eq]
    decide
  unfold Browser.userName
  split
  · rename_i name found
    split
    · rename_i named
      have short := (length_le_utf16Length name).trans named.2
      have given : name.length ≠ 0 := by
        intro none
        apply named.1
        rw [String.length_eq_zero_iff.mp none]
        rfl
      simp only [Judged.validUserName, Judged.displayName, found,
        Option.getD_some, BEq.rfl, Bool.or_true, Bool.and_true,
        and_eq_true, decide_eq_true_eq]
      exact ⟨Nat.pos_of_ne_zero given, short⟩
    · exact passenger
  · exact passenger

theorem saysSomething_trim {text : String} :
    Judged.saysSomething (trim text) = true ↔ trim text ≠ "" := by
  rw [Judged.saysSomething, decide_eq_true_iff]
  constructor
  · intro letter empty
    rw [empty, Words.mem_someLetter] at letter
    simp at letter
  · exact letter_of_trim

theorem validRating_value (right : rating = .null ∨ rating.stars = true) :
    Judged.validRating (some rating.value) = true := by
  rcases right with rfl | stars
  · rfl
  · cases rating with
    | null => rfl
    | notFinite => cases stars
    | finite value =>
      simp only [Rating.stars, and_eq_true, beq_iff_eq] at stars
      obtain ⟨⟨whole, least⟩, most⟩ := stars
      simp only [Rating.value, whole, if_true, Judged.validRating, least,
        most, Bool.and_self]

theorem value_eq_null_iff : rating.value = .null ↔ rating = .null := by
  cases rating with
  | null | notFinite => simp [Rating.value]
  | finite value =>
    by_cases whole : value.den = 1 <;> simp [Rating.value, whole]

section Rules

variable {tools : Tools} {profile : Data} {submission : FeedbackSubmission}

variable {judged : Judged}

theorem validFeedback_document
    (found : judged.surroundings.profiles judged.caller.uid = some profile) :
    judged.validFeedback (Browser.feedbackDocument tools profile
        judged.caller.uid submission judged.time) = true ↔
      Judged.validComment (trim submission.comment) = true ∧
        (Judged.validGeneral (Browser.feedbackDocument tools profile
            judged.caller.uid submission judged.time) = true ∨
          judged.validRide (Browser.feedbackDocument tools profile
            judged.caller.uid submission judged.time) = true) := by
  have digest := (Browser.requestHash tools submission).property
  have named := validUserName_userName profile
  simp only [Judged.validFeedback, found, Option.any_some, and_eq_true,
    or_eq_true]
  simp [Browser.feedbackDocument, Data.hasAll, Data.hasOnly, Data.text,
    Data.field, Judged.feedbackFields, Browser.normalized, lookup_cons,
    digest, named]

theorem validGeneral_document :
    Judged.validGeneral (Browser.feedbackDocument tools profile uid submission
        time) = true ↔
      submission.type = .general ∧ trim submission.comment ≠ "" := by
  cases kind : submission.type with
  | general =>
    simp [Judged.validGeneral, Browser.feedbackDocument, Data.text,
      Data.field, Browser.normalized, lookup_cons, kind,
      FeedbackKind.text, idValue, Rating.value, saysSomething_trim]
  | ride =>
    simp [Judged.validGeneral, Browser.feedbackDocument, Data.field,
      Browser.normalized, lookup_cons, kind, FeedbackKind.text]

theorem validRide_document
    (rating : submission.type = .ride → submission.rating = .null ∨
      submission.rating.stars = true)
    (something : trim submission.comment ≠ "" ∨
      submission.type = .ride ∧ submission.rating ≠ .null) :
    judged.validRide (Browser.feedbackDocument tools profile uid submission
        time) = true ↔
      submission.type = .ride ∧ Backend.rideIdsSafe submission = true ∧
        ∃ session, submission.sessionId.bind judged.surroundings.sessions =
            some session ∧
          session.status = some (.string "completed") ∧
          session.busId = submission.busId.map .string ∧
          session.driverId = submission.driverId.map .string ∧
          Backend.hasManifestPassenger session judged.caller.uid = true := by
  cases kind : submission.type with
  | general =>
    simp [Judged.validRide, Browser.feedbackDocument, Data.field,
      Browser.normalized, lookup_cons, kind, FeedbackKind.text]
  | ride =>
    have rated := validRating_value (rating kind)
    have said : ¬submission.rating.value = .null ∨
        trim submission.comment ≠ "" := by
      rcases something with said | rated
      · exact .inr said
      · exact .inl fun null => rated.2 (value_eq_null_iff.mp null)
    cases session : submission.sessionId with
    | none =>
      simp [Judged.validRide, Browser.feedbackDocument, Data.text,
        Data.field, Browser.normalized, lookup_cons, kind,
        FeedbackKind.text, idValue, session]
    | some sessionId =>
      cases bus : submission.busId with
      | none =>
        simp [Judged.validRide, Browser.feedbackDocument, Data.text,
          Data.field, Browser.normalized, lookup_cons, kind,
          FeedbackKind.text, idValue, bus, Backend.rideIdsSafe]
      | some busId =>
        cases driver : submission.driverId with
        | none =>
          simp [Judged.validRide, Browser.feedbackDocument, Data.text,
            Data.field, Browser.normalized, lookup_cons, kind,
            FeedbackKind.text, idValue, driver, Backend.rideIdsSafe]
        | some driverId =>
          simp [Judged.validRide, Browser.feedbackDocument, Data.text,
            Data.field, Browser.normalized, lookup_cons, kind,
            FeedbackKind.text, idValue, session, bus, driver, rated, said,
            saysSomething_trim, Judged.eligibleFeedbackRide,
            Backend.rideIdsSafe, Backend.hasManifestPassenger,
            Option.any_eq_true, and_assoc]

variable {before : Collections} {requestId : String}

theorem feedback_writeAll_changes :
    (before.writeAll (Browser.changes tools profile uid submission requestId
      time)).feedbacks (Browser.feedbackId tools uid requestId) =
        some (Browser.feedbackDocument tools profile uid submission time) := by
  simp [Collections.writeAll, Collections.write, Browser.changes]

theorem cooldown_writeAll_changes :
    (before.writeAll (Browser.changes tools profile uid submission requestId
      time)).cooldowns uid = some (Browser.cooldownDocument uid
        (Browser.feedbackId tools uid requestId) time) := by
  simp [Collections.writeAll, Collections.write, Browser.changes]

theorem permits_changes {surroundings : Surroundings} {caller : Caller}
    (judges : judged = ⟨surroundings, caller, time, before, before.writeAll
      (Browser.changes tools profile caller.uid submission requestId time)⟩)
    (found : surroundings.profiles caller.uid = some profile)
    (unused : before.feedbacks
      (Browser.feedbackId tools caller.uid requestId) = none)
    (ready : judged.feedbackCooldownReady caller.uid = true) :
    judged.permits before (Browser.changes tools profile caller.uid submission
        requestId time) = true ↔
      judged.validFeedback (Browser.feedbackDocument tools profile caller.uid
        submission time) = true := by
  have feedback : judged.after.feedbacks
      (Browser.feedbackId tools caller.uid requestId) =
        some (Browser.feedbackDocument tools profile caller.uid submission
          time) := by
    rw [judges]
    exact feedback_writeAll_changes
  have cooldown : judged.after.cooldowns caller.uid =
      some (Browser.cooldownDocument caller.uid
        (Browser.feedbackId tools caller.uid requestId) time) := by
    rw [judges]
    exact cooldown_writeAll_changes
  have digest := (Browser.feedbackId tools caller.uid requestId).property
  have stamps : judged.stampsCooldown caller.uid
      (Browser.cooldownDocument caller.uid
        (Browser.feedbackId tools caller.uid requestId) time) = true := by
    have unusedBefore : judged.before.feedbacks
        (Browser.feedbackId tools caller.uid requestId) = none := by
      rw [judges]
      exact unused
    have same : judged.caller = caller ∧ judged.time = time := by
      simp [judges]
    simp [Judged.stampsCooldown, ready, Browser.cooldownDocument, Data.hasAll,
      Data.hasOnly, Data.text, Data.field, lookup_cons,
      Judged.cooldownFields,
      digest, unusedBefore, feedback, same, Browser.feedbackDocument]
  have creates : judged.createsFeedback
      (Browser.feedbackId tools caller.uid requestId)
      (Browser.feedbackDocument tools profile caller.uid submission time) =
        judged.validFeedback (Browser.feedbackDocument tools profile caller.uid
          submission time) := by
    have same : judged.caller = caller ∧ judged.time = time ∧
        judged.surroundings = surroundings := by
      simp [judges]
    rw [Judged.createsFeedback, same.1, same.2.2, found, ready, cooldown]
    simp [Browser.cooldownDocument, Data.field, lookup_cons, same]
  simp only [Browser.changes, Judged.permits, Judged.allows, unused, creates,
    stamps, Bool.and_true]

end Rules

theorem inputFault_eq_none_iff {submission : FeedbackSubmission}
    {requestId : String} :
    Browser.inputFault submission requestId = none ↔
      wordCount (trim submission.comment) ≤ feedbackWordLimit ∧
        utf16Length (trim submission.comment) ≤ feedbackCommentMax ∧
        (trim submission.comment ≠ "" ∨
          submission.type = .ride ∧ submission.rating ≠ .null) ∧
        (submission.type = .ride → Browser.rideIdsGiven submission = true ∧
          (submission.rating = .null ∨ submission.rating.stars = true)) ∧
        matchesId 16 requestId = true := by
  simp only [Browser.inputFault, guard_eq_none_iff, or_eq_true,
    and_eq_true, decide_eq_true_eq, not_eq_true', not_or, not_and,
    Nat.not_lt, not_eq_false, and_true]
  generalize feedbackWordLimit = wordLimit
  generalize feedbackCommentMax = commentMax
  grind

/-! ## One policy -/

theorem NoActiveCooldown.ready
    (quiet : NoActiveCooldown collections uid deviceNow time) :
    (collections.cooldowns uid).all (Judged.readyAt time) = true := by
  cases found : collections.cooldowns uid with
  | none => rfl
  | some cooldown =>
    obtain ⟨last, stamp, old, -⟩ := quiet cooldown found
    simp [Judged.readyAt, stamp, old]

theorem NoActiveCooldown.estimate
    (quiet : NoActiveCooldown collections uid deviceNow time) :
    ((Browser.cooldownAgeMs collections uid deviceNow).any fun (age : ℚ) =>
      0 ≤ age && decide (age < feedbackCooldownMs)) = false := by
  unfold Browser.cooldownAgeMs
  cases found : collections.cooldowns uid with
  | none => rfl
  | some cooldown =>
    obtain ⟨last, stamp, -, outside⟩ := quiet cooldown found
    simp only [Option.bind_some, stamp, valueToMillis, Option.map_some,
      Option.any_some, Bool.and_eq_false_iff, decide_eq_false_iff_not, not_le,
      not_lt]
    rcases outside with behind | old
    · left
      have apart : (deviceNow : ℚ) < (last : Nat) := by exact_mod_cast behind
      linarith
    · right
      have apart : ((last + feedbackCooldownMs : Nat) : ℚ) ≤ deviceNow := by
        exact_mod_cast old
      push_cast at apart
      linarith

theorem rideIdsGiven_of_safe {submission : FeedbackSubmission}
    (safe : Backend.rideIdsSafe submission = true) :
    Browser.rideIdsGiven submission = true := by
  have given : ∀ id : Option String, id.any (matchesId 1) = true →
      id.any (· != "") = true := by
    intro id
    cases id with
    | none => exact id
    | some text =>
      intro matched
      simp only [Option.any_some, bne_iff_ne]
      intro empty
      rw [empty] at matched
      exact absurd matched (by decide)
  simp only [Backend.rideIdsSafe, Browser.rideIdsGiven, and_eq_true]
    at safe ⊢
  exact ⟨⟨given _ safe.1.1, given _ safe.1.2⟩, given _ safe.2⟩

variable {profile : Data}

theorem Attempt.Acceptable.faultless (acceptable : attempt.Acceptable) :
    Browser.inputFault attempt.submission attempt.requestId = none := by
  apply inputFault_eq_none_iff.mpr
  refine ⟨acceptable.words, acceptable.length, acceptable.something, ?_,
    acceptable.requestId⟩
  intro kind
  exact ⟨rideIdsGiven_of_safe (acceptable.ride kind).ids,
    (acceptable.ride kind).rating⟩

section

variable
  (quiet : NoActiveCooldown attempt.collections attempt.caller.uid
    attempt.deviceNow attempt.time)

include quiet

theorem permits_iff
    (accepted : Browser.inputFault attempt.submission attempt.requestId = none)
    (found : attempt.surroundings.profiles attempt.caller.uid = some profile)
    (unused : attempt.collections.feedbacks (Browser.feedbackId attempt.tools
      attempt.caller.uid attempt.requestId) = none) :
    Judged.permits ⟨attempt.surroundings, attempt.caller, attempt.time,
        attempt.collections, attempt.collections.writeAll
          (Browser.changes attempt.tools profile attempt.caller.uid
            attempt.submission attempt.requestId attempt.time)⟩
        attempt.collections
        (Browser.changes attempt.tools profile attempt.caller.uid
          attempt.submission attempt.requestId attempt.time) = true ↔
      attempt.FewForRules ∧
        (attempt.submission.type = .ride → attempt.RideAcceptable) := by
  obtain ⟨-, brief, something, ride, -⟩ := inputFault_eq_none_iff.mp accepted
  have rated := fun kind => (ride kind).2
  have comment : Judged.validComment (trim attempt.submission.comment) = true ↔
      attempt.FewForRules := by
    have short := (length_le_utf16Length _).trans brief
    simp only [Judged.validComment, short, decide_true, Bool.true_and,
      decide_eq_true_eq, Words.mem_atMost, Attempt.FewForRules]
  rw [permits_changes rfl found unused quiet.ready,
    validFeedback_document found,
    validGeneral_document, validRide_document rated something, comment]
  apply and_congr_right
  intro few
  cases kind : attempt.submission.type with
  | general =>
    have solid : trim attempt.submission.comment ≠ "" := by
      simpa [kind] using something
    simp [solid]
  | ride =>
    simp only [reduceCtorEq, false_and, true_and, false_or, forall_const]
    constructor
    · intro right
      obtain ⟨ids, session, stored, completed, bus, driver, passenger⟩ := right
      exact ⟨ids, rated kind, session, stored, completed, bus, driver,
        passenger⟩
    · intro acceptable
      exact ⟨acceptable.ids, acceptable.session⟩

theorem Attempt.Acceptable.onBrowser (acceptable : attempt.Acceptable)
    (few : attempt.FewForRules) :
    ∃ profile, attempt.surroundings.profiles attempt.caller.uid =
        some profile ∧
      attempt.onBrowser = .ok (.stored (attempt.collections.writeAll
        (Browser.changes attempt.tools profile attempt.caller.uid
          attempt.submission attempt.requestId attempt.time))) := by
  obtain ⟨profile, found⟩ := Option.isSome_iff_exists.mp acceptable.profile
  refine ⟨profile, found, ?_⟩
  have unused : attempt.collections.feedbacks (Browser.feedbackId attempt.tools
      attempt.caller.uid attempt.requestId) = none := acceptable.unused
  have permitted := (permits_iff quiet acceptable.faultless found
    unused).mpr ⟨few, acceptable.ride⟩
  unfold Attempt.onBrowser Browser.submitFeedback
  simp only [acceptable.faultless, unused, readsFeedback, Option.all_none,
    Bool.not_true, Bool.false_eq_true, if_false, found, quiet.estimate, commit,
    permitted, if_true]

theorem acceptable_of_onBrowser {next : Collections}
    (submitted : attempt.onBrowser = .ok (.stored next)) :
    attempt.Acceptable ∧ attempt.FewForRules := by
  unfold Attempt.onBrowser Browser.submitFeedback at submitted
  split at submitted
  · cases submitted
  · rename_i accepted
    simp only at submitted
    split at submitted
    · cases submitted
    · split at submitted
      · cases submitted
      · rename_i profile found
        split at submitted
        · split at submitted <;> cases submitted
        · rename_i unused
          simp only [quiet.estimate, Bool.false_eq_true, if_false, commit]
            at submitted
          split at submitted
          · rename_i after permitted
            split at permitted
            · rename_i allowed
              obtain ⟨few, ride⟩ :=
                (permits_iff quiet accepted found unused).mp allowed
              obtain ⟨words, brief, something, -, requested⟩ :=
                inputFault_eq_none_iff.mp accepted
              refine ⟨?_, few⟩
              apply Attempt.Acceptable.mk
              · exact requested
              · rw [found]
                rfl
              · exact unused
              · exact words
              · exact brief
              · exact something
              · exact ride
            · cases permitted
          · split at submitted <;> cases submitted

end

section Hashes

variable {tools : Tools} {submission : FeedbackSubmission}

/-- The two paths hash the same text unless the backend keeps a rating of
general feedback. -/
theorem stringify_eq_iff :
    (Browser.normalized submission).stringify tools =
        (Backend.normalized submission).stringify tools ↔
      submission.type = .ride ∨ ∀ value, submission.rating ≠ .finite value := by
  cases kind : submission.type with
  | ride => simp [Browser.normalized, Backend.normalized, kind]
  | general =>
    have texts : (Browser.normalized submission).stringify tools =
        (Backend.normalized submission).stringify tools ↔
          "null" = Normalized.ratingText tools submission.rating := by
      have front : (Browser.normalized submission).beforeRating =
          (Backend.normalized submission).beforeRating := rfl
      have back : (Browser.normalized submission).afterRating =
          (Backend.normalized submission).afterRating := rfl
      have unrated : (Browser.normalized submission).rating = .null := by
        simp [Browser.normalized, kind]
      rw [Normalized.stringify, Normalized.stringify, front, back,
        String.append_left_inj, String.append_right_inj, unrated]
      rfl
    rw [texts]
    cases rating : submission.rating with
    | null | notFinite => simp [Normalized.ratingText]
    | finite value =>
      simp [Normalized.ratingText, (tools.numberText_ne_null value).symm]

end Hashes

theorem retried_on_browser (acceptable : attempt.Acceptable)
    (same : Browser.requestHash attempt.tools attempt.submission =
      Backend.requestHash attempt.tools attempt.submission) (deviceNow : Int)
    (time : Nat) :
    (attempt.again (Backend.store attempt.tools attempt.collections profile
      attempt.caller.uid attempt.tokenName attempt.submission attempt.requestId
      attempt.time) deviceNow time).onBrowser = .ok .duplicate := by
  obtain ⟨current, found⟩ := Option.isSome_iff_exists.mp acceptable.profile
  have existing : (Backend.store attempt.tools attempt.collections profile
      attempt.caller.uid attempt.tokenName attempt.submission attempt.requestId
      attempt.time).feedbacks (Browser.feedbackId attempt.tools
        attempt.caller.uid attempt.requestId) =
      some (Backend.feedbackDocument attempt.tools profile attempt.caller.uid
        attempt.tokenName attempt.submission attempt.time) := by
    simp [Backend.store, Collections.writeAll, Collections.write,
      Browser.feedbackId, Backend.feedbackId]
  unfold Attempt.onBrowser Browser.submitFeedback Attempt.again
  simp only [acceptable.faultless, existing, found]
  simp [readsFeedback, sameRequest, Backend.feedbackDocument, Data.field,
    lookup_cons, same]

theorem retried_on_backend (acceptable : attempt.Acceptable)
    (same : Browser.requestHash attempt.tools attempt.submission =
      Backend.requestHash attempt.tools attempt.submission) (deviceNow : Int)
    (time : Nat) :
    (attempt.again (attempt.collections.writeAll (Browser.changes attempt.tools
      profile attempt.caller.uid attempt.submission attempt.requestId
      attempt.time)) deviceNow time).onBackend = .ok .duplicate := by
  obtain ⟨current, found⟩ := Option.isSome_iff_exists.mp acceptable.profile
  have existing : (attempt.collections.writeAll (Browser.changes attempt.tools
      profile attempt.caller.uid attempt.submission attempt.requestId
      attempt.time)).feedbacks (Backend.feedbackId attempt.tools
        attempt.caller.uid attempt.requestId) =
      some (Browser.feedbackDocument attempt.tools profile attempt.caller.uid
        attempt.submission attempt.time) := feedback_writeAll_changes
  unfold Attempt.onBackend Backend.postFeedback Backend.submitTransaction
    Attempt.again
  simp only [acceptable.requestId, Bool.not_true, Bool.false_eq_true, if_false,
    if_neg acceptable.safe, existing, found]
  simp [sameRequest, Browser.feedbackDocument, Data.field, lookup_cons, same]

/-- With no cooldown running, the browser and the backend keep one policy for
just those submissions that put no number on general feedback and that, where
the backend accepts them, have at most two hundred words for the rules too. -/
theorem feedback_paths_agree (attempt : Attempt)
    (quiet : NoActiveCooldown attempt.collections attempt.caller.uid
      attempt.deviceNow attempt.time)
    (collisionFree :
      attempt.tools.sha256
            ((Browser.normalized attempt.submission).stringify attempt.tools) =
          attempt.tools.sha256
            ((Backend.normalized attempt.submission).stringify attempt.tools) →
        (Browser.normalized attempt.submission).stringify attempt.tools =
          (Backend.normalized attempt.submission).stringify attempt.tools) :
    attempt.OnePolicy ↔
      attempt.RatedByRide ∧ (attempt.Acceptable → attempt.FewForRules) := by
  constructor
  · intro agree
    refine ⟨stringify_eq_iff.mp (collisionFree agree.same_hash), ?_⟩
    intro acceptable
    obtain ⟨profile, -, stored⟩ := acceptable.onBackend quiet
    obtain ⟨next, onBrowser⟩ := agree.stored.mpr ⟨_, stored⟩
    exact (acceptable_of_onBrowser quiet onBrowser).2
  · intro right
    obtain ⟨rated, few⟩ := right
    have same : Browser.requestHash attempt.tools attempt.submission =
        Backend.requestHash attempt.tools attempt.submission :=
      congrArg attempt.tools.sha256 (stringify_eq_iff.mpr rated)
    apply Attempt.OnePolicy.mk
    · constructor
      · intro submitted
        obtain ⟨next, submitted⟩ := submitted
        obtain ⟨acceptable, -⟩ := acceptable_of_onBrowser quiet submitted
        obtain ⟨profile, -, stored⟩ := acceptable.onBackend quiet
        exact ⟨_, stored⟩
      · intro submitted
        obtain ⟨next, submitted⟩ := submitted
        have acceptable := acceptable_of_onBackend submitted
        obtain ⟨profile, -, stored⟩ :=
          acceptable.onBrowser quiet (few acceptable)
        exact ⟨_, stored⟩
    · rfl
    · exact same
    · intro next submitted deviceNow time
      obtain ⟨acceptable, few⟩ := acceptable_of_onBrowser quiet submitted
      obtain ⟨profile, -, stored⟩ := acceptable.onBrowser quiet few
      rw [stored] at submitted
      cases submitted
      exact retried_on_backend acceptable same deviceNow time
    · intro next submitted deviceNow time
      have acceptable := acceptable_of_onBackend submitted
      obtain ⟨profile, -, stored⟩ := acceptable.onBackend quiet
      rw [stored] at submitted
      cases submitted
      exact retried_on_browser acceptable same deviceNow time

/-! ## A rating of general feedback -/

/-- The digests of the texts below, and the number among them as it is
written. -/
def recordedTools : Tools where
  sha256 text :=
    if text = "passenger-1\x00request-00000001" then
      ⟨"c3383a26071dca81cd9bb070ebf6f374" ++
        "912af1f0b0c47476e9936da80bf67582", by decide +kernel⟩
    else if text = "passenger-1\x00request-00000002" then
      ⟨"5c815935531d942266eb5fb0c724a0ed" ++
        "ac17d9e8cc1bd9e38c7e9888fd409807", by decide +kernel⟩
    else if text = "\x7b\"kind\":\"general\",\"sessionId\":null," ++
        "\"busId\":null,\"driverId\":null,\"rating\":null," ++
        "\"comment\":\"Great\"\x7d" then
      ⟨"ae3444fdfefb56d11aa7f5cd55f3e4f5" ++
        "ee89ec562364d712184ed0f259b5d026", by decide +kernel⟩
    else if text = "\x7b\"kind\":\"general\",\"sessionId\":null," ++
        "\"busId\":null,\"driverId\":null,\"rating\":5," ++
        "\"comment\":\"Great\"\x7d" then
      ⟨"5f0655e473c38a4b54924b24f973273e" ++
        "a92a0b7689475357049134c1817ed702", by decide +kernel⟩
    else
      ⟨"e3b0c44298fc1c149afbf4c8996fb924" ++
        "27ae41e4649b934ca495991b7852b855", by decide +kernel⟩
  numberText value := if value = 5 then "5" else "0"
  numberText_ne_null value := by split <;> decide

def generalAttempt (rating : Rating) : Attempt where
  tools := recordedTools
  surroundings :=
    { profiles := fun uid =>
        if uid = "passenger-1" then some [("role", .string "passenger")]
        else none
      sessions := fun _ => none
      authorizations := fun _ => none }
  collections := { feedbacks := fun _ => none, cooldowns := fun _ => none }
  caller := { uid := "passenger-1", token := { } }
  tokenName := none
  submission := { type := .general, rating := rating, comment := "Great" }
  requestId := "request-00000001"
  deviceNow := 1000
  time := 1000

theorem generalAttempt_over (rating : Rating) :
    NoActiveCooldown (generalAttempt rating).collections
      (generalAttempt rating).caller.uid (generalAttempt rating).deviceNow
      (generalAttempt rating).time := by
  intro cooldown found
  cases found

theorem generalAttempt_acceptable (rating : Rating) :
    (generalAttempt rating).Acceptable := by
  apply Attempt.Acceptable.mk
  · change matchesId 16 "request-00000001" = true
    decide +kernel
  · rfl
  · rfl
  · change wordCount (trim "Great") ≤ feedbackWordLimit
    decide +kernel
  · change utf16Length (trim "Great") ≤ feedbackCommentMax
    decide +kernel
  · left
    change trim "Great" ≠ ""
    decide +kernel
  · intro kind
    cases kind

/-- The backend stores a rated piece of general feedback under a hash that the
browser does not derive. -/
theorem rated_general_feedback_differs :
    (generalAttempt (.finite 5)).Acceptable ∧
      ¬(generalAttempt (.finite 5)).OnePolicy := by
  refine ⟨generalAttempt_acceptable _, ?_⟩
  intro agree
  have apart : Browser.requestHash recordedTools
      (generalAttempt (.finite 5)).submission ≠
        Backend.requestHash recordedTools
          (generalAttempt (.finite 5)).submission := by
    decide +kernel
  exact apart agree.same_hash

/-- Without the rating both paths keep one policy. -/
theorem feedback_paths_agree_unrated :
    (generalAttempt .null).OnePolicy := by
  apply (feedback_paths_agree (generalAttempt .null) (generalAttempt_over _)
    fun _ => rfl).mpr
  constructor
  · right
    intro value number
    cases number
  · intro acceptable
    change Words.count re2Space (trim "Great").toList ≤ feedbackWordLimit
    decide +kernel

end Eki.Feedback
