import Eki.Authorization.Publication
import Eki.Feedback.Policy

/-!
# The Firestore rules for feedback

A client commits any number of writes at once.  The rules judge each of them by
the document it replaces, by the documents stored before the commit and by
those stored after it, and the commit takes effect when they allow every write.
No rule lets a client write to another collection than these two.
-/

namespace Eki.Feedback

open Eki.Authorization (AuthorizationRecord Claims)

/-! ## Documents -/

inductive Value where
  | null
  | bool (value : Bool)
  | int (value : Int)
  | double (value : ℚ)
  | string (value : String)
  /-- Milliseconds since the epoch. -/
  | timestamp (milliseconds : Nat)
  /-- A map, a list or any other value, in some encoding. -/
  | other (encoding : String)
  deriving DecidableEq

/-- The fields of a document. -/
abbrev Data := List (String × Value)

namespace Data

def field (data : Data) (name : String) : Option Value :=
  data.lookup name

def text (data : Data) (name : String) (meets : String → Bool) : Bool :=
  match data.field name with
  | some (.string value) => meets value
  | _ => false

/-- `data.keys().hasAll(names)` -/
def hasAll (data : Data) (names : List String) : Bool :=
  names.all fun name => (data.field name).isSome

/-- `data.keys().hasOnly(names)` -/
def hasOnly (data : Data) (names : List String) : Bool :=
  data.all fun entry => names.contains entry.1

/-- `data.diff(old).affectedKeys()` -/
def affectedKeys (data old : Data) : List String :=
  ((old ++ data).map Prod.fst).filter fun name =>
    data.field name != old.field name

/-- The fields of an update replace those of the document. -/
def update (data patch : Data) : Data :=
  data.filter (fun entry => (patch.lookup entry.1).isNone) ++ patch

theorem field_of_not_affected {data old : Data} {names : List String}
    {name : String}
    (few : (data.affectedKeys old).all (names.contains ·) = true)
    (outside : name ∉ names) : data.field name = old.field name := by
  by_contra changed
  have affected : name ∈ data.affectedKeys old := by
    rw [affectedKeys, List.mem_filter]
    refine ⟨?_, by simpa using changed⟩
    rw [List.map_append, List.mem_append]
    by_contra absent
    rw [not_or] at absent
    apply changed
    rw [field, field, List.lookup_eq_none_iff.mpr, List.lookup_eq_none_iff.mpr]
    · intro entry member
      simp only [bne_iff_ne]
      intro same
      exact absent.1 (same ▸ List.mem_map_of_mem member)
    · intro entry member
      simp only [bne_iff_ne]
      intro same
      exact absent.2 (same ▸ List.mem_map_of_mem member)
  have allowed := List.all_eq_true.mp few name affected
  rw [List.contains_iff_mem] at allowed
  exact outside allowed

theorem field_update {data patch : Data} {name : String}
    (absent : patch.lookup name = none) :
    (data.update patch).field name = data.field name := by
  unfold update field
  induction data with
  | nil => exact absent
  | cons entry rest induction =>
    obtain ⟨other, value⟩ := entry
    by_cases same : name = other
    · subst same
      simp [absent]
    · have apart : (name == other) = false := by simpa using same
      cases kept : (patch.lookup other).isNone with
      | true =>
        simp only [List.filter_cons, kept, if_true, List.cons_append,
          List.lookup_cons, apart]
        exact induction
      | false =>
        simp only [List.filter_cons, kept, Bool.false_eq_true, if_false,
          List.lookup_cons, apart]
        exact induction

end Data

/-- A document of `ride_sessions`, as far as feedback reads it.  The manifest
is given where it is a map, with the `userId` of each entry. -/
structure RideSession where
  status : Option Value
  busId : Option Value
  driverId : Option Value
  passengers : Option (List (String × Option Value))

/-- The documents that the rules and the backend read and no client can
write. -/
structure Surroundings where
  profiles : String → Option Data
  sessions : String → Option RideSession
  authorizations : String → Option AuthorizationRecord
  /-- The authorizations in the realtime database. -/
  mirrors : String → Option AuthorizationRecord := fun _ => none

structure Caller where
  uid : String
  token : Claims

def Surroundings.isAdmin (surroundings : Surroundings) (caller : Caller) :
    Bool :=
  let role : Option String :=
    match (surroundings.profiles caller.uid).bind (Data.field · "role") with
    | some (.string role) => some role
    | _ => none
  Authorization.isAdmin caller.token (surroundings.authorizations caller.uid)
    role

structure Collections where
  feedbacks : String → Option Data
  cooldowns : String → Option Data

inductive Target where
  | feedback (feedbackId : String)
  | cooldown (uid : String)
  deriving DecidableEq

/-- A write as it ends up, with server timestamps filled in; without contents
it deletes. -/
structure Write where
  target : Target
  contents : Option Data

namespace Collections

def get (collections : Collections) : Target → Option Data
  | .feedback feedbackId => collections.feedbacks feedbackId
  | .cooldown uid => collections.cooldowns uid

def write (collections : Collections) (change : Write) : Collections :=
  match change.target with
  | .feedback feedbackId =>
    { collections with
      feedbacks :=
        Function.update collections.feedbacks feedbackId change.contents }
  | .cooldown uid =>
    { collections with
      cooldowns := Function.update collections.cooldowns uid change.contents }

def writeAll (collections : Collections) (changes : List Write) : Collections :=
  changes.foldl write collections

end Collections

/-! ## Rules -/

/-- What the rules read while they judge a commit of a signed-in client; nobody
else may write at all. -/
structure Judged where
  surroundings : Surroundings
  caller : Caller
  time : Nat
  before : Collections
  after : Collections

namespace Judged

/-- The cooldown was stamped at least twenty-four hours ago. -/
def readyAt (time : Nat) (cooldown : Data) : Bool :=
  match cooldown.field "lastSubmittedAt" with
  | some (.timestamp last) => decide (last + feedbackCooldownMs ≤ time)
  | _ => false

variable (commit : Judged)

def feedbackCooldownReady (uid : String) : Bool :=
  (commit.before.cooldowns uid).all (readyAt commit.time)

def eligibleFeedbackRide (data : Data) : Bool :=
  data.text "sessionId" fun sessionId =>
    (commit.surroundings.sessions sessionId).any fun session =>
      session.status == some (.string "completed") &&
        session.busId == data.field "busId" &&
        session.driverId == data.field "driverId" &&
        session.passengers.any fun passengers =>
          passengers.lookup commit.caller.uid ==
            some (some (.string commit.caller.uid))

def feedbackFields : List String :=
  ["userId", "userName", "type", "sessionId", "busId", "driverId", "rating",
    "comment", "requestHash", "timestamp", "status"]

/-- `profile.get('displayName', 'Passenger')` -/
def displayName (profile : Data) : Value :=
  (profile.field "displayName").getD (.string "Passenger")

def validUserName (profile : Data) (userName : String) : Bool :=
  decide (0 < userName.length) && decide (userName.length ≤ 100) &&
    (userName == "Passenger" || Value.string userName == displayName profile)

/-- `^(\s*\S+){0,200}\s*$` and at most two thousand characters. -/
def validComment (comment : String) : Bool :=
  decide (comment.length ≤ feedbackCommentMax) &&
    decide (comment.toList ∈ Words.atMost re2Space feedbackWordLimit)

/-- `[\s\S]*\S[\s\S]*` -/
def saysSomething (comment : String) : Bool :=
  decide (comment.toList ∈ Words.someLetter re2Space)

def validGeneral (data : Data) : Bool :=
  data.field "type" == some (.string "general") &&
    data.field "sessionId" == some .null && data.field "busId" == some .null &&
    data.field "driverId" == some .null && data.field "rating" == some .null &&
    data.text "comment" saysSomething

def validRating : Option Value → Bool
  | some .null => true
  | some (.int rating) => decide (1 ≤ rating) && decide (rating ≤ 5)
  | _ => false

def validRide (data : Data) : Bool :=
  data.field "type" == some (.string "ride") &&
    data.text "sessionId" (matchesId 1) && data.text "busId" (matchesId 1) &&
    data.text "driverId" (matchesId 1) && validRating (data.field "rating") &&
    (data.field "rating" != some .null || data.text "comment" saysSomething) &&
    commit.eligibleFeedbackRide data

def validFeedback (data : Data) : Bool :=
  data.hasAll feedbackFields && data.hasOnly feedbackFields &&
    data.field "userId" == some (.string commit.caller.uid) &&
    (commit.surroundings.profiles commit.caller.uid).any (fun profile =>
      data.text "userName" (validUserName profile)) &&
    data.field "status" == some (.string "new") &&
    data.field "timestamp" == some (.timestamp commit.time) &&
    data.text "requestHash" matchesDigest && data.text "comment" validComment &&
    (validGeneral data || commit.validRide data)

/-- The rule of `feedbacks` for a new document. -/
def createsFeedback (feedbackId : String) (data : Data) : Bool :=
  (commit.surroundings.profiles commit.caller.uid).isSome &&
    commit.validFeedback data &&
    commit.feedbackCooldownReady commit.caller.uid &&
    (commit.after.cooldowns commit.caller.uid).any fun cooldown =>
      cooldown.field "feedbackId" == some (.string feedbackId) &&
        cooldown.field "lastSubmittedAt" == some (.timestamp commit.time)

def feedbackStatuses : List String := ["new", "reviewed", "resolved"]

def reviewFields : List String := ["status", "reviewedAt", "reviewedBy"]

/-- The rule of `feedbacks` for a changed document. -/
def updatesFeedback (old data : Data) : Bool :=
  commit.surroundings.isAdmin commit.caller &&
    (data.affectedKeys old).all (reviewFields.contains ·) &&
    data.text "status" (feedbackStatuses.contains ·) &&
    data.field "reviewedAt" == some (.timestamp commit.time) &&
    data.field "reviewedBy" == some (.string commit.caller.uid)

def cooldownFields : List String := ["userId", "feedbackId", "lastSubmittedAt"]

/-- The rule of `feedbackCooldowns` for a new or changed document. -/
def stampsCooldown (uid : String) (data : Data) : Bool :=
  commit.caller.uid == uid && commit.feedbackCooldownReady uid &&
    data.hasAll cooldownFields && data.hasOnly cooldownFields &&
    data.field "userId" == some (.string uid) &&
    data.field "lastSubmittedAt" == some (.timestamp commit.time) &&
    data.text "feedbackId" fun feedbackId =>
      matchesDigest feedbackId &&
        (commit.before.feedbacks feedbackId).isNone &&
        (commit.after.feedbacks feedbackId).any fun feedback =>
          feedback.field "userId" == some (.string uid) &&
            feedback.field "timestamp" == some (.timestamp commit.time)

/-- The rule for one write of the commit, on the documents that the writes
before it leave. -/
def allows (current : Collections) (change : Write) : Bool :=
  match change.contents with
  | none => false
  | some data =>
    match change.target with
    | .feedback feedbackId =>
      match current.feedbacks feedbackId with
      | none => commit.createsFeedback feedbackId data
      | some old => commit.updatesFeedback old data
    | .cooldown uid => commit.stampsCooldown uid data

def permits (current : Collections) : List Write → Bool
  | [] => true
  | change :: rest =>
    commit.allows current change && permits (current.write change) rest

end Judged

def commit (surroundings : Surroundings) (caller : Caller) (time : Nat)
    (before : Collections) (changes : List Write) : Option Collections :=
  let after := before.writeAll changes
  let judged : Judged := ⟨surroundings, caller, time, before, after⟩
  if judged.permits before changes then some after else none

/-- The rule of `feedbacks` for reading one document. -/
def readsFeedback (surroundings : Surroundings) (caller : Caller)
    (feedback : Option Data) : Bool :=
  feedback.all fun data =>
    data.field "userId" == some (.string caller.uid) ||
      surroundings.isAdmin caller

end Eki.Feedback
