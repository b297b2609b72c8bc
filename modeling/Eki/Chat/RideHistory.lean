import Eki.Chat.Messages

/-!
# The history of a ride

Messages are sent and cleared while the ride changes; once it has ended it may
be deleted, by an administrator or by the retention sweep.  A deletion writes a
job, removes the documents of the ride one by one, and removes the job; another
process may take an unfinished one up.
-/

namespace Eki.Chat

open Documents Transition
open Function (update)

/-! ## Documents -/

inductive DocPath where
  | session
  | message (id : String)
  | archivedMessage (id : String)
  | messageRateLimit (uid : String)
  | other (path : String)
  deriving DecidableEq, Repr

namespace RideTree

variable (tree : RideTree)

def exist : DocPath → Bool
  | .session => tree.session.isSome
  | .message id => (tree.messages.lookup id).isSome
  | .archivedMessage id => (tree.archivedMessages.lookup id).isSome
  | .messageRateLimit uid => (tree.messageRateLimits.lookup uid).isSome
  | .other path => tree.others.contains path

/-- All documents. -/
def paths : List DocPath :=
  (if tree.session.isSome then [.session] else []) ++
    tree.messages.keys.map DocPath.message ++
    tree.archivedMessages.keys.map DocPath.archivedMessage ++
    tree.messageRateLimits.keys.map DocPath.messageRateLimit ++
    tree.others.map DocPath.other

def delete : DocPath → RideTree
  | .session => { tree with session := none }
  | .message id => { tree with messages := tree.messages.erase id }
  | .archivedMessage id =>
    { tree with archivedMessages := tree.archivedMessages.erase id }
  | .messageRateLimit uid =>
    { tree with messageRateLimits := tree.messageRateLimits.erase uid }
  | .other path =>
    { tree with others := tree.others.filter fun other => other != path }

/-- `isTerminalRideStatus` of the session, where there is one. -/
def ended : Bool :=
  tree.session.all fun session => session.status.terminal

end RideTree

/-- A document of `completed_trips`. -/
structure CompletedTrip where
  sessionId : Option String
  deriving DecidableEq, Repr

/-! ## Deletions -/

/-- An administrator's deletion knows the projections to delete. -/
inductive DeletionKind where
  | manual (projections : List String)
  | retention
  deriving DecidableEq, Repr

inductive Deletion where
  /-- The retention query has found the ended ride. -/
  | found
  /-- The manual deletion has seen the ride ended, or gone. -/
  | checked
  | queried (projections : List String)
  /-- The job is written. -/
  | marked (kind : DeletionKind)
  /-- `recursiveDelete` has found these documents and still has to delete
  them. -/
  | deleting (kind : DeletionKind) (rest : List DocPath)
  | projecting (projections : List String)
  | unmarking (kind : DeletionKind)
  deriving DecidableEq, Repr

def deleteBatchSize : Nat := 400

/-- An answered or failed request to send. -/
structure Attempt where
  user : ChatUser
  requestId : String
  text : ModeratedChatText
  profile : Bool
  before : RideTree
  outcome : Except ChatPolicyError SentMessage
  after : RideTree

/-- The documents of one ride, its deletion jobs and projections, and the
processes. -/
structure RideWorld where
  tree : RideTree
  /-- `_ride_history_deletion_jobs` -/
  manualJob : Bool := false
  /-- `_retention_deletion_jobs` -/
  retentionJob : Bool := false
  completedTrips : Collection CompletedTrip := ∅
  deletions : Nat → Option Deletion := fun _ => none
  clears : Nat → Option (List (Sigma fun _ : String => ChatMessage)) :=
    fun _ => none
  attempts : List Attempt := []
  cleared : List (Sigma fun _ : String => ChatMessage) := []
  /-- Deleted while the ride had not ended. -/
  deletedEarly : Bool := false
  /-- A job of either kind has been written. -/
  began : Bool := false
  manualBegan : Bool := false

inductive RideLabel where
  | send (user : ChatUser) (requestId : String) (text : ModeratedChatText)
      (profile : Bool) (now serverTime : Int)
  /-- `clearMessages` reads messages. -/
  | readMessages (clear : Nat)
  /-- Its transaction moves them. -/
  | clearMessages (clear : Nat)
  | stopClearing (clear : Nat)
  /-- The ride changes, and may write its completed trip where it ends; an ended
  ride stays ended. -/
  | change (session : ChatSession)
      (trip : Option (String × CompletedTrip))
  /-- The retention sweep deletes an old completed trip. -/
  | dropTrip (id : String)
  /-- The retention query finds the ride. -/
  | findRide (deletion : Nat)
  /-- The retention sweep finds a job. -/
  | findJob (deletion : Nat)
  /-- A deletion by an administrator, or taken up by the sweep. -/
  | deleteHistory (deletion : Nat)
  | advance (deletion : Nat)
  /-- `recursiveDelete` removes a document. -/
  | delete (deletion : Nat) (path : DocPath)
  /-- A crash, a failure, or lost leadership. -/
  | stop (deletion : Nat)

namespace RideWorld

/-- A ride without a deletion so far. -/
def start (tree : RideTree) (completedTrips : Collection CompletedTrip) :
    RideWorld where
  tree := tree
  completedTrips := completedTrips

section Step

variable (tools : ChatTools) (sessionId : String)

def setDeletion (world : RideWorld) (deletion : Nat)
    (phase : Option Deletion) : RideWorld :=
  { world with deletions := update world.deletions deletion phase }

/-- The documents of `completed_trips` under the ride's identifier or with its
`sessionId`. -/
def projections (world : RideWorld) : List String :=
  (world.completedTrips.entries.filter fun trip =>
    trip.1 == sessionId || trip.2.sessionId == some sessionId).map
    fun trip => trip.1

/-- The next operation of a deletion. -/
def advanced (world : RideWorld) (deletion : Nat) :
    Deletion → Option RideWorld
  | .found =>
    some ({ world with
      retentionJob := true
      began := true }.setDeletion deletion (some (.marked .retention)))
  | .checked =>
    some (world.setDeletion deletion
      (some (.queried (world.projections sessionId))))
  | .queried projections =>
    some ({ world with
      manualJob := true
      began := true
      manualBegan := true }.setDeletion deletion
        (some (.marked (.manual projections))))
  | .marked kind =>
    some (world.setDeletion deletion (some (.deleting kind world.tree.paths)))
  | .deleting kind rest =>
    if rest.isEmpty then
      match kind with
      | .manual projections =>
        some (world.setDeletion deletion (some (.projecting projections)))
      | .retention =>
        some (world.setDeletion deletion (some (.unmarking .retention)))
    else none
  | .projecting projections =>
    if projections.isEmpty then
      some (world.setDeletion deletion (some (.unmarking (.manual []))))
    else
      some ({ world with
        completedTrips :=
          (projections.take deleteBatchSize).foldl
            (fun trips id => trips.erase id) world.completedTrips
        }.setDeletion deletion
          (some (.projecting (projections.drop deleteBatchSize))))
  | .unmarking (.manual _) =>
    some ({ world with manualJob := false }.setDeletion deletion none)
  | .unmarking .retention =>
    some ({ world with retentionJob := false }.setDeletion deletion none)

/-- The log of an attempt, and its writes where it has any. -/
def attempted (world : RideWorld) (user : ChatUser) (requestId : String)
    (text : ModeratedChatText) (profile : Bool)
    (result : Except ChatPolicyError (SentMessage × RideTree)) : RideWorld :=
  let after :=
    match result with
    | .ok (_, tree) => tree
    | .error _ => world.tree
  { world with
    tree := after
    attempts :=
      { user, requestId, text, profile
        before := world.tree
        outcome := result.map Prod.fst
        after } :: world.attempts }

def step : System RideWorld RideLabel := fun world label =>
  match label with
  | .send user requestId text profile now serverTime =>
    some (world.attempted user requestId text profile
      (sendMessage tools user requestId text profile now serverTime
        world.tree))
  | .readMessages clear =>
    if (world.clears clear).isNone then
      some { world with
        clears := update world.clears clear
          (some (clearSnapshot world.tree)) }
    else none
  | .clearMessages clear => do
      let snapshot ← world.clears clear
      match Chat.clearMessages world.tree world.manualJob snapshot with
      | none =>
        some { world with
          clears := update world.clears clear none }
      | some tree =>
        some { world with
          tree := tree
          clears := update world.clears clear none
          cleared := snapshot ++ world.cleared }
  | .stopClearing clear =>
    some { world with clears := update world.clears clear none }
  | .change session trip => do
      let old ← world.tree.session
      guard (old.status.terminal → session.status.terminal ∧ trip.isNone)
      some { world with
        tree := { world.tree with session := some session }
        completedTrips :=
          trip.elim world.completedTrips fun trip =>
            world.completedTrips.insert trip.1 trip.2 }
  | .dropTrip id =>
    some { world with completedTrips := world.completedTrips.erase id }
  | .findRide deletion => do
      let session ← world.tree.session
      guard (session.status.terminal ∧ (world.deletions deletion).isNone)
      some (world.setDeletion deletion (some .found))
  | .findJob deletion =>
    if world.retentionJob && (world.deletions deletion).isNone then
      some (world.setDeletion deletion (some (.marked .retention)))
    else none
  | .deleteHistory deletion =>
    if world.tree.ended && (world.deletions deletion).isNone then
      some (world.setDeletion deletion (some .checked))
    else none
  | .advance deletion => do
      let phase ← world.deletions deletion
      world.advanced sessionId deletion phase
  | .delete deletion path =>
    match world.deletions deletion with
    | some (.deleting kind rest) =>
      some ({ world with
        tree := world.tree.delete path
        deletedEarly := world.deletedEarly ||
          (path == DocPath.session && !world.tree.ended)
        }.setDeletion deletion
          (some (.deleting kind (rest.filter fun other => other != path))))
    | _ => none
  | .stop deletion => some (world.setDeletion deletion none)

end Step

end RideWorld

end Eki.Chat
