import EditorProtocol.Method.Envelope
import EditorProtocol.Catalog.Standard

/-!
The life of an outgoing message. A request is sent, waits for its reply, and ends completed, failed
or cancelled; nothing leaves these three states. A notification is sent and delivered once.
-/

namespace EditorProtocol

inductive RequestState where
  | sent
  | awaitingReply
  | completed
  | failed
  | cancelled
deriving DecidableEq, Repr, Inhabited

namespace RequestState

def name : RequestState → String
  | .sent => "sent"
  | .awaitingReply => "awaiting_reply"
  | .completed => "completed"
  | .failed => "failed"
  | .cancelled => "cancelled"

/-- The states that may follow a state. -/
def successors : RequestState → List RequestState
  | .sent => [.awaitingReply]
  | .awaitingReply => [.completed, .failed, .cancelled]
  | .completed => []
  | .failed => []
  | .cancelled => []

end RequestState

/-- Why a message cannot take a step of its life. -/
inductive TransitionError where
  | notAllowed (id : Value) (method : String) (source target : RequestState)
  | otherMethod (replied : String) (id : Value) (method : String)
  | notCancellable (id : Value)
  | delivered (method : String)
deriving Repr

def TransitionError.message : TransitionError → String
  | .notAllowed id method source target =>
    "Request " ++ id.render ++ " (" ++ method ++ ") cannot move from " ++ source.name ++
      " to " ++ target.name
  | .otherMethod replied id method =>
    "Reply to " ++ replied ++ " cannot resolve request " ++ id.render ++ " (" ++ method ++ ")"
  | .notCancellable id =>
    "Request " ++ id.render ++ " cannot be cancelled, " ++ Catalog.cancelName ++
      " is not part of the catalog"
  | .delivered method => "Notification " ++ method ++ " was already delivered"

/-- An outgoing request with the reply to it, once there is one. -/
structure PendingRequest where
  id : Value
  request : Request
  state : RequestState
  reply : Option Reply
  cancellable : Bool
deriving Repr

namespace PendingRequest

/-- A request as it is sent. It can be cancelled if its catalog knows the notification for it. -/
def start (id : Value) (request : Request) (R : Registry) : PendingRequest :=
  ⟨id, request, .sent, none, R.contains Catalog.cancelName⟩

/-- Whether the request has come to its end. -/
def isDone (p : PendingRequest) : Bool := p.state.successors.isEmpty

/-- The written form of a pending request. -/
def render (p : PendingRequest) : String :=
  "PendingRequest(" ++ p.id.render ++ ", " ++ Text.quoted p.request.method.name ++ ", " ++
    p.state.name ++ ")"

def moveTo (p : PendingRequest) (target : RequestState) : Except TransitionError PendingRequest :=
  if p.state.successors.contains target then .ok { p with state := target }
  else .error (.notAllowed p.id p.request.method.name p.state target)

def markAwaiting (p : PendingRequest) : Except TransitionError PendingRequest :=
  p.moveTo .awaitingReply

/-- Takes the reply to the request; it has to be one of the same method. -/
def resolve (p : PendingRequest) (reply : Reply) : Except TransitionError PendingRequest :=
  if !reply.method.same p.request.method then
    .error (.otherMethod reply.method.name p.id p.request.method.name)
  else do
    let q ← p.moveTo (if reply.failed then .failed else .completed)
    return { q with reply := some reply }

def cancel (p : PendingRequest) : Except TransitionError PendingRequest :=
  if p.cancellable then p.moveTo .cancelled else .error (.notCancellable p.id)

end PendingRequest

/-- An outgoing notification and whether it was handed over. -/
structure NotificationRecord where
  notification : Notification
  isDelivered : Bool
deriving Repr

namespace NotificationRecord

def start (n : Notification) : NotificationRecord := ⟨n, false⟩

/-- The name of the state that a notification is in. -/
def stateName (r : NotificationRecord) : String := if r.isDelivered then "delivered" else "sent"

def markDelivered (r : NotificationRecord) : Except TransitionError NotificationRecord :=
  if r.isDelivered then .error (.delivered r.notification.method.name)
  else .ok { r with isDelivered := true }

end NotificationRecord

end EditorProtocol
