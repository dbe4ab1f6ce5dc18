import EditorProtocol.Method.Lifecycle

/-!
What can go wrong at an endpoint: refused messages, impossible transitions, errors that the other
side replied, requests that cannot be cancelled, and failures of the transport.
-/

namespace EditorProtocol

/-- An error that a reply carries: its code, its message, and further data or null. -/
structure LspError where
  code : Int
  message : String
  data : Value
deriving Repr

namespace LspError

def render (e : LspError) : String := "[" ++ toString e.code ++ "] " ++ e.message

/-- The codes that endpoints themselves reply with. -/
def methodNotFound : Int := -32601

def invalidParams : Int := -32602

def internalError : Int := -32603

def requestCancelled : Int := -32800

/-- The error that a request ends with when it is cancelled. -/
def cancelled (method : String) : LspError :=
  ⟨requestCancelled, "Request " ++ method ++ " was cancelled", .null⟩

end LspError

/-- What a failure of the transport means for a connection. -/
inductive FailureKind where
  /-- The other side is gone. -/
  | closed
  /-- The bounds of the messages are lost. -/
  | framing
  /-- Nothing that a connection can handle. -/
  | unexpected
deriving DecidableEq, Repr, Inhabited

structure TransportFailure where
  kind : FailureKind
  name : String
  message : String
deriving DecidableEq, Repr, Inhabited

/-- Why a received value cannot be asked for the parts of a message. -/
inductive StrangeMessage where
  /-- It has no parts. -/
  | noParts (kind : String)
  /-- Its parts have numbers instead of names. -/
  | numbered (kind : String)
  /-- Its parts cannot be got at. -/
  | closed (kind : String)
  /-- It is made of bytes. -/
  | bytes
deriving DecidableEq, Repr

def StrangeMessage.message : StrangeMessage → String
  | .noParts kind => "argument of type '" ++ kind ++ "' is not iterable"
  | .numbered "str" => "string indices must be integers, not 'str'"
  | .numbered kind => kind ++ " indices must be integers or slices, not str"
  | .closed kind => "'" ++ kind ++ "' object is not subscriptable"
  | .bytes => "a bytes-like object is required, not 'str'"

inductive EndpointError where
  | refused (r : Refusal)
  | transition (e : TransitionError)
  | replied (e : LspError)
  | notPending (id : Value)
  | answered (id : Value)
  | wrongHandler (method : String) (direction : Direction)
  | connectionClosed (method : String)
  | transport (f : TransportFailure)
  /-- A value that breaks the rules of its model. -/
  | invalid (model : String) (violations : List Violation)
  /-- An error of the contract that a handler ends with, its parts not looked at yet. -/
  | raised (code message data : Value)
  /-- A failure of a handler's own. -/
  | failure (text : String)
  /-- A received value whose parts cannot be asked for. -/
  | strange (m : StrangeMessage)
deriving Repr

namespace EndpointError

def message : EndpointError → String
  | .refused r => r.message
  | .transition e => e.message
  | .replied e => e.render
  | .notPending id => "No pending request with id " ++ id.render
  | .answered id => "Request " ++ id.render ++ " was already answered"
  | .wrongHandler method direction => "Method '" ++ method ++ "' is not a " ++ direction.name
  | .connectionClosed method => "Connection closed before " ++ method ++ " was answered"
  | .transport f => f.message
  | .invalid model violations => Violation.report model violations
  | .raised code message _ => "[" ++ code.plain ++ "] " ++ message.plain
  | .failure text => text
  | .strange m => m.message

/-- Whether the error is about the shape of a payload. -/
def isShape : EndpointError → Bool
  | .refused (.fault (.mismatch _)) => true
  | .refused (.violation _) => true
  | _ => false

/-- Whether the error is one of the contract's own, which dispatching a message survives. -/
def isOwn : EndpointError → Bool
  | .refused (.fault f) => f.isOwn
  | .refused (.changing _) => false
  | .refused _ => true
  | .transition _ => true
  | .replied _ => true
  | .raised _ _ _ => true
  | _ => false

end EndpointError

end EditorProtocol
