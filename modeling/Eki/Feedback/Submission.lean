import Eki.Feedback.Rules

/-!
# Submitting feedback

A submission is stored by the backend, in a transaction of its own, or by the
browser, in a commit that the Firestore rules judge.  Both name the document by
a digest of the user and the request, and store a digest of the request's
normalized contents to recognise a retry.
-/

namespace Eki.Feedback

/-- A digest in hexadecimal digits. -/
abbrev Digest := {text : String // matchesDigest text = true}

/-- What the language and its libraries give to both paths. -/
structure Tools where
  /-- SHA-256 of the text's UTF-8 bytes. -/
  sha256 : String → Digest
  /-- A finite number as `JSON.stringify` writes it. -/
  numberText : ℚ → String
  numberText_ne_null : ∀ value, numberText value ≠ "null"

/-! ## The normalized contents -/

def FeedbackKind.text : FeedbackKind → String
  | .ride => "ride"
  | .general => "general"

structure FeedbackSubmission where
  type : FeedbackKind
  sessionId : Option String := none
  busId : Option String := none
  driverId : Option String := none
  rating : Rating
  comment : String

structure Normalized where
  kind : FeedbackKind
  sessionId : Option String
  busId : Option String
  driverId : Option String
  rating : Rating
  comment : String

namespace Normalized

def hexDigit (n : Nat) : Char :=
  if n < 10 then Char.ofNat (0x30 + n) else Char.ofNat (0x57 + n)

/-- A character inside a JSON string. -/
def escaped (letter : Char) : List Char :=
  let backslash := Char.ofNat 0x5c
  match letter.toNat with
  | 0x22 => [backslash, letter]
  | 0x5c => [backslash, letter]
  | 0x08 => [backslash, 'b']
  | 0x09 => [backslash, 't']
  | 0x0a => [backslash, 'n']
  | 0x0c => [backslash, 'f']
  | 0x0d => [backslash, 'r']
  | n =>
    if n < 0x20 then
      [backslash, 'u', '0', '0', hexDigit (n / 16), hexDigit (n % 16)]
    else [letter]

def quoted (text : String) : String :=
  "\"" ++ String.ofList (text.toList.flatMap escaped) ++ "\""

def quotedOrNull : Option String → String
  | some text => quoted text
  | none => "null"

/-- A number that is not finite is written as `null`. -/
def ratingText (tools : Tools) : Rating → String
  | .finite value => tools.numberText value
  | _ => "null"

def beforeRating (contents : Normalized) : String :=
  "\x7b\"kind\":" ++ quoted contents.kind.text ++
    ",\"sessionId\":" ++ quotedOrNull contents.sessionId ++
    ",\"busId\":" ++ quotedOrNull contents.busId ++
    ",\"driverId\":" ++ quotedOrNull contents.driverId ++ ",\"rating\":"

def afterRating (contents : Normalized) : String :=
  ",\"comment\":" ++ quoted contents.comment ++ "\x7d"

/-- `JSON.stringify` of the normalized contents. -/
def stringify (tools : Tools) (contents : Normalized) : String :=
  contents.beforeRating ++ ratingText tools contents.rating ++
    contents.afterRating

end Normalized

def Rating.value : Rating → Value
  | .null => .null
  | .finite value => if value.den = 1 then .int value.num else .double value
  | .notFinite => .other "Infinity"

def idValue : Option String → Value
  | some text => .string text
  | none => .null

/-- A field that holds a time or a number of milliseconds. -/
def valueToMillis : Option Value → Option ℚ
  | some (.timestamp milliseconds) => some milliseconds
  | some (.int value) => some value
  | some (.double value) => some value
  | _ => none

/-- A document stored under the request's identifier is the same request. -/
def sameRequest (existing : Data) (uid : String) (requestHash : Digest) :
    Bool :=
  existing.field "userId" == some (.string uid) &&
    existing.field "requestHash" == some (.string requestHash)

inductive Submitted where
  | duplicate
  | stored (next : Collections)

/-! ## The backend -/

namespace Backend

structure FeedbackPolicyError where
  status : Nat
  message : String
  retryAfterMs : Option ℚ := none

/-- The identifier of the feedback document. -/
def feedbackId (tools : Tools) (uid requestId : String) : Digest :=
  tools.sha256 (uid ++ "\x00" ++ requestId)

/-- The normalized contents that the backend hashes. -/
def normalized (submission : FeedbackSubmission) : Normalized where
  kind := submission.type
  sessionId := if submission.type = .ride then submission.sessionId else none
  busId := if submission.type = .ride then submission.busId else none
  driverId := if submission.type = .ride then submission.driverId else none
  rating := submission.rating
  comment := trim submission.comment

def requestHash (tools : Tools) (submission : FeedbackSubmission) : Digest :=
  tools.sha256 ((normalized submission).stringify tools)

def rideIdsSafe (submission : FeedbackSubmission) : Bool :=
  submission.sessionId.any (matchesId 1) &&
    submission.busId.any (matchesId 1) && submission.driverId.any (matchesId 1)

def hasManifestPassenger (session : RideSession) (uid : String) : Bool :=
  session.passengers.any fun passengers =>
    passengers.lookup uid == some (some (.string uid))

def rideContext (session : RideSession) (uid : String)
    (submission : FeedbackSubmission) : RideContext where
  isSessionPassenger := hasManifestPassenger session uid
  sessionCompleted := session.status == some (.string "completed")
  busMatches := session.busId == submission.busId.map .string
  driverMatches := session.driverId == submission.driverId.map .string

def rideContextFor (surroundings : Surroundings) (uid : String)
    (submission : FeedbackSubmission) : Option RideContext :=
  match submission.type with
  | .general => some { }
  | .ride =>
    (submission.sessionId.bind surroundings.sessions).map fun session =>
      rideContext session uid submission

/-- `text.slice(0, units)`; half of a surrogate pair is no text and is left
out. -/
def sliceUnits : Nat → List Char → List Char
  | _, [] => []
  | units, letter :: rest =>
    let size := if letter.toNat < 0x10000 then 1 else 2
    if size ≤ units then letter :: sliceUnits (units - size) rest else []

def userName (profile : Data) (tokenName : Option String) : String :=
  let name :=
    match profile.field "displayName" with
    | some (.string name) => if trim name = "" then none else some (trim name)
    | _ => none
  let other :=
    tokenName.bind fun name => if trim name = "" then none else some (trim name)
  String.ofList (sliceUnits 100 ((name <|> other).getD "Passenger").toList)

def feedbackDocument (tools : Tools) (profile : Data) (uid : String)
    (tokenName : Option String) (submission : FeedbackSubmission)
    (time : Nat) : Data :=
  let contents := normalized submission
  [("userId", .string uid), ("userName", .string (userName profile tokenName)),
    ("type", .string submission.type.text),
    ("sessionId", idValue contents.sessionId),
    ("busId", idValue contents.busId),
    ("driverId", idValue contents.driverId),
    ("rating",
      if submission.type = .ride then submission.rating.value else .null),
    ("comment", .string contents.comment),
    ("requestHash", .string (requestHash tools submission)),
    ("timestamp", .timestamp time), ("status", .string "new")]

def cooldownDocument (uid : String) (time : Nat) : Data :=
  [("userId", .string uid), ("lastSubmittedAt", .timestamp time)]

/-- The two writes of the transaction. -/
def store (tools : Tools) (collections : Collections) (profile : Data)
    (uid : String) (tokenName : Option String)
    (submission : FeedbackSubmission) (requestId : String) (time : Nat) :
    Collections :=
  collections.writeAll
    [⟨.feedback (feedbackId tools uid requestId),
        some (feedbackDocument tools profile uid tokenName submission time)⟩,
      ⟨.cooldown uid, some (cooldownDocument uid time)⟩]

/-- The transaction, which evaluates the policy at one time and commits at
another. -/
def submitTransaction (tools : Tools) (surroundings : Surroundings)
    (collections : Collections) (uid : String) (tokenName : Option String)
    (submission : FeedbackSubmission) (requestId : String)
    (now : Int) (time : Nat) : Except FeedbackPolicyError Submitted :=
  match surroundings.profiles uid with
  | none => .error { status := 403, message := "An active profile is required." }
  | some profile =>
    match collections.feedbacks (feedbackId tools uid requestId) with
    | some existing =>
      if sameRequest existing uid (requestHash tools submission) then
        .ok .duplicate
      else
        .error
          { status := 409
            message := "Feedback request ID was already used." }
    | none =>
      match rideContextFor surroundings uid submission with
      | none =>
        .error { status := 404, message := "Ride session was not found." }
      | some rideContext =>
        let last := (collections.cooldowns uid).bind fun cooldown =>
          valueToMillis (cooldown.field "lastSubmittedAt")
        match evaluateFeedback submission.type (trim submission.comment)
          submission.rating rideContext last now with
        | .allowed =>
          .ok (.stored (store tools collections profile uid tokenName
            submission requestId time))
        | .cooldown retryAfterMs =>
          .error
            { status := 429
              message := "Feedback limit reached."
              retryAfterMs := some retryAfterMs }
        | .refused .validation message =>
          .error { status := 400, message := message }
        | .refused .state message =>
          .error { status := 409, message := message }
        | .refused .eligibility message =>
          .error { status := 403, message := message }

def postFeedback (tools : Tools) (surroundings : Surroundings)
    (collections : Collections) (uid : String) (tokenName : Option String)
    (submission : FeedbackSubmission) (requestId : String)
    (now : Int) (time : Nat) : Except FeedbackPolicyError Submitted :=
  if !matchesId 16 requestId then
    .error { status := 400, message := "Invalid feedback payload." }
  else if submission.type = .ride && !rideIdsSafe submission then
    .error
      { status := 400
        message := "Ride feedback requires session, bus, and driver." }
  else
    submitTransaction tools surroundings collections uid tokenName submission
      requestId now time

theorem of_stored {tools : Tools} {surroundings : Surroundings}
    {collections next : Collections} {uid requestId : String}
    {tokenName : Option String} {submission : FeedbackSubmission} {now : Int}
    {time : Nat}
    (submitted : postFeedback tools surroundings collections uid tokenName
      submission requestId now time = .ok (.stored next)) :
    ∃ profile rideContext, matchesId 16 requestId = true ∧
      (submission.type = .ride → rideIdsSafe submission = true) ∧
      surroundings.profiles uid = some profile ∧
      collections.feedbacks (feedbackId tools uid requestId) = none ∧
      rideContextFor surroundings uid submission = some rideContext ∧
      evaluateFeedback submission.type (trim submission.comment)
        submission.rating rideContext
        ((collections.cooldowns uid).bind fun cooldown =>
          valueToMillis (cooldown.field "lastSubmittedAt")) now = .allowed ∧
      next = store tools collections profile uid tokenName submission requestId
        time := by
  unfold postFeedback submitTransaction at submitted
  split at submitted
  · cases submitted
  · rename_i request
    split at submitted
    · cases submitted
    · rename_i safe
      have ids : submission.type = .ride → rideIdsSafe submission = true := by
        intro kind
        simpa [kind] using safe
      split at submitted
      · cases submitted
      · rename_i profile found
        split at submitted
        · split at submitted <;> cases submitted
        · rename_i unused
          split at submitted
          · cases submitted
          · rename_i rideContext ride
            simp only at submitted
            split at submitted
            · rename_i allowed
              cases submitted
              exact ⟨profile, rideContext, by simpa using request, ids, found,
                unused, ride, allowed, rfl⟩
            all_goals cases submitted

/-- The middleware in front of the review. -/
def requireAdmin (surroundings : Surroundings) (caller : Caller) : Bool :=
  caller.token.admin && caller.token.role == some "admin" &&
    caller.token.authorizationVersion.isSome &&
    Authorization.authorizationIsCurrent caller.token
      (surroundings.authorizations caller.uid) (surroundings.mirrors caller.uid)

/-- `PATCH /feedback/:feedbackId/status`, with whether the status changed. -/
def updateFeedbackStatus (surroundings : Surroundings)
    (collections : Collections) (caller : Caller) (feedbackId status : String)
    (time : Nat) : Except FeedbackPolicyError (Bool × Collections) :=
  if !requireAdmin surroundings caller then
    .error { status := 403, message := "Forbidden: Admin access required." }
  else if !matchesId 1 feedbackId ||
      !Judged.feedbackStatuses.contains status then
    .error { status := 400, message := "Invalid feedback status update." }
  else
    match collections.feedbacks feedbackId with
    | none => .error { status := 404, message := "Feedback was not found." }
    | some data =>
      if data.field "status" = some (.string status) then
        .ok (false, collections)
      else
        let reviewed := data.update
          [("status", .string status), ("reviewedAt", .timestamp time),
            ("reviewedBy", .string caller.uid)]
        .ok (true, collections.write ⟨.feedback feedbackId, some reviewed⟩)

end Backend

/-! ## The browser -/

namespace Browser

inductive FeedbackError where
  | refused (status : Nat) (message : String) (retryAfterMs : Option ℚ)
  /-- Firestore's own refusal of a read or of the commit. -/
  | permissionDenied

/-- The identifier of the feedback document, as the backend names it. -/
def feedbackId (tools : Tools) (uid requestId : String) : Digest :=
  tools.sha256 (uid ++ "\x00" ++ requestId)

def normalized (submission : FeedbackSubmission) : Normalized where
  kind := submission.type
  sessionId := if submission.type = .ride then submission.sessionId else none
  busId := if submission.type = .ride then submission.busId else none
  driverId := if submission.type = .ride then submission.driverId else none
  rating := if submission.type = .ride then submission.rating else .null
  comment := trim submission.comment

def requestHash (tools : Tools) (submission : FeedbackSubmission) : Digest :=
  tools.sha256 ((normalized submission).stringify tools)

/-- The identifiers are there and not empty. -/
def rideIdsGiven (submission : FeedbackSubmission) : Bool :=
  submission.sessionId.any (· != "") && submission.busId.any (· != "") &&
    submission.driverId.any (· != "")

/-- What the browser finds wrong with a submission before it reads anything. -/
def inputFault (submission : FeedbackSubmission) (requestId : String) :
    Option String :=
  let comment := trim submission.comment
  if decide (feedbackCommentMax < utf16Length comment) ||
      decide (feedbackWordLimit < wordCount comment) ||
      decide (comment = "" ∧
        (submission.type ≠ .ride ∨ submission.rating = .null)) then
    some "Please add feedback within the word and character limits."
  else if submission.type = .ride && !rideIdsGiven submission then
    some "Ride feedback requires a completed ride, bus, and driver."
  else if submission.type = .ride && submission.rating ≠ .null &&
      !submission.rating.stars then
    some "Rating must be between 1 and 5."
  else if !matchesId 16 requestId then some "Invalid feedback request."
  else none

def userName (profile : Data) : String :=
  match profile.field "displayName" with
  | some (.string name) =>
    if trim name ≠ "" ∧ utf16Length name ≤ 100 then name else "Passenger"
  | _ => "Passenger"

def feedbackDocument (tools : Tools) (profile : Data) (uid : String)
    (submission : FeedbackSubmission) (time : Nat) : Data :=
  let contents := normalized submission
  [("userId", .string uid), ("userName", .string (userName profile)),
    ("type", .string contents.kind.text),
    ("sessionId", idValue contents.sessionId),
    ("busId", idValue contents.busId),
    ("driverId", idValue contents.driverId),
    ("rating", contents.rating.value), ("comment", .string contents.comment),
    ("requestHash", .string (requestHash tools submission)),
    ("timestamp", .timestamp time), ("status", .string "new")]

def cooldownDocument (uid : String) (feedbackId : Digest) (time : Nat) :
    Data :=
  [("userId", .string uid), ("feedbackId", .string feedbackId),
    ("lastSubmittedAt", .timestamp time)]

def changes (tools : Tools) (profile : Data) (uid : String)
    (submission : FeedbackSubmission) (requestId : String) (time : Nat) :
    List Write :=
  let id := feedbackId tools uid requestId
  [⟨.feedback id, some (feedbackDocument tools profile uid submission time)⟩,
    ⟨.cooldown uid, some (cooldownDocument uid id time)⟩]

def cooldownAgeMs (collections : Collections) (uid : String)
    (deviceNow : Int) : Option ℚ :=
  ((collections.cooldowns uid).bind fun cooldown =>
    valueToMillis (cooldown.field "lastSubmittedAt")).map (deviceNow - ·)

/-- `submitFeedback`; the server judges the commit at its own time. -/
def submitFeedback (tools : Tools) (surroundings : Surroundings)
    (collections : Collections) (caller : Caller)
    (submission : FeedbackSubmission) (requestId : String)
    (deviceNow : Int) (time : Nat) : Except FeedbackError Submitted :=
  match inputFault submission requestId with
  | some message => .error (.refused 400 message none)
  | none =>
    let uid := caller.uid
    let existing := collections.feedbacks (feedbackId tools uid requestId)
    if !readsFeedback surroundings caller existing then
      .error .permissionDenied
    else
      match surroundings.profiles uid with
      | none =>
        .error (.refused 403
          "An active profile is required to send feedback." none)
      | some profile =>
        match existing with
        | some existing =>
          if sameRequest existing uid (requestHash tools submission) then
            .ok .duplicate
          else
            .error (.refused 409 ("This feedback request was already " ++
              "used. Please submit again.") none)
        | none =>
          let age := cooldownAgeMs collections uid deviceNow
          if age.any fun (age : ℚ) =>
              0 ≤ age && decide (age < feedbackCooldownMs) then
            .error (.refused 429 "Feedback limit reached."
              (age.map (feedbackCooldownMs - ·)))
          else
            match commit surroundings caller time collections
              (changes tools profile uid submission requestId time) with
            | some next => .ok (.stored next)
            | none =>
              if age.any fun (age : ℚ) =>
                  decide (age < 2 * feedbackCooldownMs) then
                .error (.refused 429 "Feedback limit reached." none)
              else .error .permissionDenied

end Browser

end Eki.Feedback
