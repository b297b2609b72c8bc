import Eki.Feedback.Submission
import Eki.Library.Documents
import Eki.Ride.Records

/-!
# The chat of a ride

Passengers, the operator and administrators send messages, each under an
identifier made of the sender and the request.  The operator clears the chat by
moving its messages to an archive.  Both are transactions on the documents of
the ride.
-/

namespace Eki.Chat

open Documents

/-! ## The rate of a sender -/

def maxMessagesPerHour : Nat := 60

def maxMessagesPerMinute : Nat := 10

def minGapMs : Int := 3000

def hourMs : Int := 60 * 60 * 1000

def minuteMs : Int := 60 * 1000

/-- A document of `messageRateLimits`, its times in milliseconds. -/
structure ChatRate where
  userId : Option String := none
  sentAt : Option (List Int) := none
  lastSentAt : Option Int := none
  windowStartedAt : Option Int := none
  count : Option Int := none
  deriving DecidableEq, Repr

inductive ChatRateCheck where
  | allowed (nextSentAt : List Int)
  | refused (reason : String) (retryAfterMs : Int)
  deriving DecidableEq, Repr

/-- The earlier messages and the last of them, from either form of the
document. -/
def previousMessages (existing : Option ChatRate) (now : Int) :
    List Int × Option Int :=
  match existing with
  | none => ([], none)
  | some existing =>
    match existing.sentAt with
    | some sentAt =>
      let all :=
        (sentAt ++ existing.lastSentAt.toList).insertionSort (· ≤ ·)
      let previous := all.drop (all.length - maxMessagesPerHour)
      (previous, previous.getLast?)
    | none =>
      match existing.windowStartedAt, existing.lastSentAt with
      | some windowStartedAt, some last =>
        let stored := existing.count.getD 1
        let count : Int :=
          max 1 (min (maxMessagesPerHour : Int)
            (if stored = 0 then 1 else stored))
        (if now - windowStartedAt < hourMs then
            List.replicate (count - 1).toNat windowStartedAt ++ [last]
          else [], some last)
      | _, _ => ([], none)

def evaluateChatRate (existing : Option ChatRate) (now : Int) :
    ChatRateCheck :=
  match previousMessages existing now with
  | (_, none) => .allowed []
  | (previous, some lastSentAt) =>
    let gapMs := now - lastSentAt
    if gapMs < minGapMs then
      .refused "cooldown" (min minGapMs (minGapMs - gapMs))
    else
      let hourlyWindow :=
        previous.filter fun timestamp => decide (now - timestamp < hourMs)
      if hourlyWindow.length ≥ maxMessagesPerHour then
        .refused "hourly" (hourMs - (now - hourlyWindow.headD now))
      else
        let burstWindow :=
          hourlyWindow.filter fun timestamp =>
            decide (now - timestamp < minuteMs)
        if burstWindow.length ≥ maxMessagesPerMinute then
          .refused "burst" (minuteMs - (now - burstWindow.headD now))
        else .allowed hourlyWindow

/-! ## The documents of a ride -/

structure PassengerEntry where
  userId : Option String := none
  userName : Option String := none
  deriving DecidableEq, Repr

/-- What a document of `ride_sessions` says to the chat. -/
structure ChatSession where
  status : SessionStatus
  driverId : Option String := none
  busId : Option String := none
  passengers : Collection PassengerEntry := ∅

structure ChatMessage where
  text : String
  sender : String
  senderName : String
  senderId : String
  requestHash : String
  moderated : Bool
  moderationVersion : Nat
  timestamp : Int
  deriving DecidableEq, Repr

structure RideTree where
  session : Option ChatSession
  messages : Collection ChatMessage := ∅
  archivedMessages : Collection ChatMessage := ∅
  messageRateLimits : Collection ChatRate := ∅
  /-- Documents below the ride that no operation here knows. -/
  others : List String := []

/-! ## Sending -/

structure ModeratedChatText where
  text : String
  normalized : String
  censored : Bool

/-- SHA-256 in hexadecimal digits, and the moderation of texts. -/
structure ChatTools where
  stableHash : String → String
  moderateChatText : String → Option ModeratedChatText

/-- An authenticated request; `isAdmin` is its current authority. -/
structure ChatUser where
  uid : String
  role : Option String := none
  name : Option String := none
  driverId : Option String := none
  assignedBusId : Option String := none
  isAdmin : Bool := false
  deriving DecidableEq, Repr

structure ChatPolicyError where
  status : Nat
  message : String
  retryAfterMs : Option Int := none
  deriving DecidableEq, Repr

structure SentMessage where
  id : String
  duplicate : Bool
  deriving DecidableEq, Repr

def nul : String := String.singleton (Char.ofNat 0)

section Sending

variable (tools : ChatTools)

def messageId (uid requestId : String) : String :=
  tools.stableHash (uid ++ nul ++ requestId)

def requestHash (uid requestId : String) (text : ModeratedChatText) : String :=
  tools.stableHash (uid ++ nul ++ requestId ++ nul ++ text.normalized)

def chatStatus : SessionStatus → Bool
  | .armed | .active => true
  | _ => false

/-- The operator of the ride. -/
def isDriver (user : ChatUser) (session : Option ChatSession) : Bool :=
  user.role == some "driver" &&
    session.bind ChatSession.driverId == user.driverId &&
    session.bind ChatSession.busId == user.assignedBusId

def privilegedSender (user : ChatUser) (session : Option ChatSession) : Bool :=
  user.isAdmin || isDriver user session

def passengerEntry (user : ChatUser) (session : ChatSession) :
    Option PassengerEntry :=
  session.passengers.lookup user.uid

def isPassenger (user : ChatUser) (session : ChatSession) : Bool :=
  (passengerEntry user session).any fun entry => entry.userId == some user.uid

/-- Where the message comes from. -/
def senderOf (user : ChatUser) (session : ChatSession) : String :=
  if user.isAdmin then "admin"
  else if isDriver user (some session) then "driver"
  else "passenger"

def senderTitle (user : ChatUser) (session : ChatSession) : String :=
  if user.isAdmin then "Administrator"
  else if isDriver user (some session) then "Operator"
  else "Passenger"

def nonblank (name : Option String) : Option String :=
  (name.map Feedback.trim).filter fun name => name != ""

def senderName (user : ChatUser) (session : ChatSession) : String :=
  let passengerName :=
    if senderOf user session == "passenger" then
      nonblank ((passengerEntry user session).bind PassengerEntry.userName)
    else none
  let rawSenderName :=
    (passengerName <|> nonblank user.name).getD (senderTitle user session)
  let name :=
    ((tools.moderateChatText rawSenderName).map ModeratedChatText.text).getD
      (senderTitle user session)
  String.ofList (Feedback.Backend.sliceUnits 100 name.toList)

/-- A stored message under the identifier. -/
def RideTree.retained (tree : RideTree) (id : String) : Option ChatMessage :=
  tree.messages.lookup id <|> tree.archivedMessages.lookup id

/-- The writes of a new message, at the server's time. -/
def RideTree.store (tree : RideTree) (user : ChatUser) (id : String)
    (nextSentAt : List Int) (message : ChatMessage) : RideTree :=
  { tree with
    messageRateLimits := tree.messageRateLimits.insert user.uid
      { userId := some user.uid
        sentAt := some nextSentAt
        lastSentAt := some message.timestamp }
    messages := tree.messages.insert id message }

def admitMessage (user : ChatUser) (session : ChatSession)
    (rate : Option ChatRate) (now : Int) :
    Except ChatPolicyError (List Int) :=
  if !chatStatus session.status then
    .error { status := 409, message := "Chat is closed for this ride." }
  else if !isPassenger user session && !isDriver user (some session) &&
      !user.isAdmin then
    .error { status := 403, message := "You are not part of this ride." }
  else
    match evaluateChatRate rate now with
    | .allowed nextSentAt => .ok nextSentAt
    | .refused reason retryAfterMs =>
      .error
        { status := 429
          message :=
            if reason == "hourly" then "Rolling message limit reached."
            else if reason == "burst" then "Short-term message limit reached."
            else "Please wait before sending another message."
          retryAfterMs := some retryAfterMs }

/-- The transaction of `sendMessage`; `profile` says whether the sender has a
document in `users`. -/
def sendMessage (user : ChatUser) (requestId : String)
    (text : ModeratedChatText) (profile : Bool) (now serverTime : Int)
    (tree : RideTree) : Except ChatPolicyError (SentMessage × RideTree) :=
  let id := messageId tools user.uid requestId
  let hash := requestHash tools user.uid requestId text
  if !privilegedSender user tree.session && !profile then
    .error
      { status := 403
        message := "An active passenger profile is required." }
  else
    match tree.retained id with
    | some previous =>
      if previous.senderId != user.uid || previous.requestHash != hash then
        .error
          { status := 409
            message := "Message request ID was already used." }
      else .ok ({ id, duplicate := true }, tree)
    | none =>
      match tree.session with
      | none =>
        .error { status := 404, message := "Ride session was not found." }
      | some session =>
        match admitMessage user session
          (tree.messageRateLimits.lookup user.uid) now with
        | .error error => .error error
        | .ok nextSentAt =>
          .ok
            ({ id, duplicate := false },
              tree.store user id nextSentAt
                { text := text.text
                  sender := senderOf user session
                  senderName := senderName tools user session
                  senderId := user.uid
                  requestHash := hash
                  moderated := text.censored
                  moderationVersion := 2
                  timestamp := serverTime })

end Sending

/-! ## Clearing -/

/-- `messages.limit(200).get()` -/
def clearSnapshot (tree : RideTree) :
    List (Sigma fun _ : String => ChatMessage) :=
  (tree.messages.matching fun _ => true).take 200

def RideTree.archive (tree : RideTree)
    (message : Sigma fun _ : String => ChatMessage) : RideTree :=
  { tree with
    archivedMessages := tree.archivedMessages.insert message.1 message.2
    messages := tree.messages.erase message.1 }

/-- The transaction of `clearMessages` on what it has read before; `none` where
the ride is gone or its history is being deleted. -/
def clearMessages (tree : RideTree) (deletion : Bool)
    (snapshot : List (Sigma fun _ : String => ChatMessage)) : Option RideTree :=
  if tree.session.isNone || deletion then none
  else some (snapshot.foldl RideTree.archive tree)

end Eki.Chat
