import Eki.Privacy.Deletion

/-!
# The account's own requests during its deletion

While an account is deleted, requests that carry a token verified earlier may
still be under way: the bootstrap of a profile, chat messages, boarding and
feedback.  Each of them writes in one transaction that makes a check of its own.
-/

namespace Eki.Privacy

open Eki.Http (Delivery)
open Transition

structure Token where
  /-- The bearer's authority as an administrator is current. -/
  admin : Bool := false
  role : Option String := none
  driverId : Option String := none
  assignedBusId : Option String := none
  deriving DecidableEq

/-- A document of `ride_sessions`, as far as the account's requests read it. -/
structure RideSession where
  chatOpen : Bool
  boarding : Bool
  driverId : String
  busId : String
  /-- The account is in the manifest. -/
  passenger : Bool := false
  deriving DecidableEq

structure ChatMessage where
  sessionId : String
  id : String
  deriving DecidableEq

/-- A request under way; its token is verified. -/
inductive Handler where
  /-- `disabled` is what the account said when it was read. -/
  | bootstrap (disabled : Option Bool)
  | message (token : Token) (message : ChatMessage)
  | join (sessionId : String)
  | feedback (id : String)
  deriving DecidableEq

structure AccountRequests where
  deletions : Deletions
  handlers : List Handler
  sessions : String → Option RideSession
  messages : List ChatMessage
  feedbacks : List String

namespace RideSession

/-- The bearer drives this ride. -/
def isDriver (session : RideSession) (token : Token) : Bool :=
  token.role == some "driver" && token.driverId == some session.driverId &&
    token.assignedBusId == some session.busId

end RideSession

namespace AccountRequests

variable (state : AccountRequests)

def account : Account := state.deletions.stored.account

def setAccount (account : Account) : AccountRequests :=
  { state with deletions := state.deletions.setAccount account }

def createsProfile (disabled : Bool) : Bool :=
  state.account.profile.isNone && state.deletions.stored.request.isNone &&
    !disabled

def bootstrap (disabled : Bool) : AccountRequests :=
  if state.createsProfile disabled then
    state.setAccount
      { state.account with profile := some { role := some "passenger" } }
  else state

/-- The transaction of `sendMessage` stores the message; `allowed` is the
answer of `evaluateChatRate`. -/
def storesMessage (token : Token) (message : ChatMessage) (allowed : Bool) :
    Bool :=
  (state.sessions message.sessionId).any fun session =>
    let privileged := token.admin || session.isDriver token
    (privileged || state.account.profile.isSome) &&
      !state.messages.contains message && session.chatOpen &&
      (session.passenger || privileged) && allowed

def sendMessage (token : Token) (message : ChatMessage) (allowed : Bool) :
    AccountRequests :=
  if state.storesMessage token message allowed then
    { state.setAccount
        { state.account with
          rateLimits := state.account.rateLimits.insert message.sessionId } with
      messages := message :: state.messages }
  else state

/-- The transaction of `joinSession`; `allowed` says that the ride is as it
was, and that it has a place left. -/
def joinSession (sessionId : String) (allowed : Bool) : AccountRequests :=
  match state.sessions sessionId with
  | none => state
  | some session =>
    if session.boarding && state.account.profile.isSome && allowed then
      { state with
        sessions :=
          Function.update state.sessions sessionId
            (some { session with passenger := true }) }
    else state

/-- The transaction of a feedback; `allowed` is the answer of
`evaluateFeedback`. -/
def submitFeedback (id : String) (allowed : Bool) (now : Nat) :
    AccountRequests :=
  if state.account.profile.isSome && !state.feedbacks.contains id && allowed
  then
    { state.setAccount { state.account with cooldown := some now } with
      feedbacks := id :: state.feedbacks }
  else state

/-- The transaction of a request; `none` before the request has got there. -/
def commit (allowed : Bool) (now : Nat) : Handler → Option AccountRequests
  | .bootstrap none => none
  | .bootstrap (some disabled) => some (state.bootstrap disabled)
  | .message token message => some (state.sendMessage token message allowed)
  | .join sessionId => some (state.joinSession sessionId allowed)
  | .feedback id => some (state.submitFeedback id allowed now)

end AccountRequests

inductive RequestLabel where
  | deletion (label : Label)
  | arrive (handler : Handler)
  /-- The bootstrap asks the Auth service for the account. -/
  | readAccount (n : Nat)
  | commit (n : Nat) (allowed : Bool) (now : Nat) (delivery : Delivery)
  | drop (n : Nat)
  /-- The Auth account is removed by somebody else. -/
  | accountLost
  /-- Somebody else changes a ride. -/
  | ride (sessionId : String) (session : Option RideSession)

namespace AccountRequests

/-- A request arrives with nothing done yet. -/
def arriving : Handler → Bool
  | .bootstrap disabled => disabled.isNone
  | _ => true

def step : System AccountRequests RequestLabel
  | state, .deletion label =>
    (state.deletions.step label).map fun deletions =>
      { state with deletions }
  | state, .arrive handler =>
    if arriving handler then
      some { state with handlers := state.handlers ++ [handler] }
    else none
  | state, .readAccount n =>
    match state.handlers[n]? with
    | some (.bootstrap none) =>
      some
        { state with
          handlers :=
            match state.account.user with
            | none => state.handlers.eraseIdx n
            | some user =>
              state.handlers.set n (.bootstrap (some user.disabled)) }
    | _ => none
  | state, .commit n allowed now delivery =>
    (state.handlers[n]?.bind (state.commit allowed now)).map fun written =>
      { written with
        handlers :=
          if delivery = .again then state.handlers
          else state.handlers.eraseIdx n }
  | state, .drop n =>
    some { state with handlers := state.handlers.eraseIdx n }
  | state, .accountLost =>
    some (state.setAccount state.account.withoutUser)
  | state, .ride sessionId session =>
    some
      { state with
        sessions := Function.update state.sessions sessionId session }

end AccountRequests

end Eki.Privacy
