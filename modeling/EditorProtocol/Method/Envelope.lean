import EditorProtocol.Method.Registry

/-!
Messages of registered methods. What is built through a registry carries a payload of the shape
of its method, and a reply is taken only if it is either a result or an error of its request. A
bare reply payload has to be exactly one of the two, a whole response says which one it is.
-/

namespace EditorProtocol

/-- The identity of a request, chosen by its sender. -/
inductive RequestId where
  | number (n : Int)
  | name (s : String)
deriving DecidableEq, Repr, Inhabited

def RequestId.value : RequestId → Value
  | .number n => .int n
  | .name s => .text s

/-- The version of the envelopes around all payloads. -/
def envelopeVersion : Value := .text "2.0"

/-- Parameters in their typed form and as they travel. -/
structure Request where
  method : Method
  params : Value
  payload : Value
deriving Repr

structure Notification where
  method : Method
  params : Value
  payload : Value
deriving Repr

/-- What came back for a request. The error is null in a successful reply, the payload is the wire
form of whichever is there. -/
structure Reply where
  method : Method
  result : Value
  error : Value
  payload : Value
deriving Repr

/-- The entry for the parameters of a message, which are left out if they are null. -/
def paramsEntry (payload : Value) : List (String × Value) :=
  if payload.isNull then [] else [("params", payload)]

def Request.message (r : Request) (id : Value) : Value :=
  .object ([("jsonrpc", envelopeVersion), ("id", id), ("method", .text r.method.name)] ++
    paramsEntry r.payload)

def Notification.message (n : Notification) : Value :=
  .object ([("jsonrpc", envelopeVersion), ("method", .text n.method.name)] ++
    paramsEntry n.payload)

namespace Reply

def failed (r : Reply) : Bool := !r.error.isNull

/-- The response to a request; its identity may be unknown. -/
def message (r : Reply) (id : Value) : Value :=
  .object [("jsonrpc", envelopeVersion), ("id", id),
    (if r.failed then "error" else "result", r.payload)]

end Reply

/-- Why a message cannot be built or taken. A violation is a reply that is neither a result nor an
error of its request, or that might be both. -/
inductive Refusal where
  | notFound (name : Value)
  /-- A value that may change can be looked up under no name. -/
  | changing (kind : String)
  | wrongDirection (method : String) (direction : Direction)
  | fault (f : Fault)
  | violation (m : Mismatch)
deriving Repr

def Refusal.message : Refusal → String
  | .notFound name => "Method '" ++ name.plain ++ "' is not registered"
  | .changing kind => "unhashable type: '" ++ kind ++ "'"
  | .wrongDirection name direction => "Method '" ++ name ++ "' is a " ++ direction.name
  | .fault f => f.message
  | .violation m => m.message

/-- The name that a value is, or the refusal of a value that is none. -/
def Method.nameOf (v : Value) : Except Refusal String :=
  match nameOf? v, v.changing? with
  | some name, _ => .ok name
  | none, some kind => .error (.changing kind)
  | none, none => .error (.notFound v)

namespace Registry

/-- The method that a value names, if there is one. -/
def lookup (R : Registry) (v : Value) : Except Refusal (Option Method) :=
  match Method.nameOf v with
  | .ok name => .ok (R.find? name)
  | .error (.notFound _) => .ok none
  | .error e => .error e

/-- The method of a name, or the refusal of a name without one. -/
def get (R : Registry) (name : String) : Except Refusal Method :=
  match R.find? name with
  | some m => .ok m
  | none => .error (.notFound (.text name))

/-- The method of a name, if it is a request. -/
def getRequest (R : Registry) (name : String) : Except Refusal (Method × Replies) := do
  let m ← R.get name
  match m.replies with
  | some replies => .ok (m, replies)
  | none => .error (.wrongDirection m.name m.direction)

/-- The method of a name, if it is a notification. -/
def getNotification (R : Registry) (name : String) : Except Refusal Method := do
  let m ← R.get name
  if m.isRequest then .error (.wrongDirection m.name m.direction) else .ok m

end Registry

namespace Method

/-- A fault in a message of the method. -/
def refusal (m : Method) (f : Fault) : Refusal := .fault (f.forMethod m.name)

/-- Parameters in both forms. What holds a record is taken for the typed form, everything else
for the wire form. -/
def conform (F : Family) (m : Method) (params : Value) : Traced Refusal (Value × Value) :=
  Traced.mapError m.refusal do
    let shape ← .of m.paramsShape
    let typed ← if params.isTyped then pure params else decode F false params shape
    return (typed, ← .of (encode F typed shape))

end Method

namespace Registry

/-- A request of a method, its parameters given in either form. -/
def buildRequest (F : Family) (R : Registry) (name : String) (params : Value) :
    Traced Refusal Request := do
  let (m, _) ← .of (R.getRequest name)
  let (typed, payload) ← m.conform F params
  return ⟨m, typed, payload⟩

/-- A notification of a method, its parameters given in either form. -/
def buildNotification (F : Family) (R : Registry) (name : String) (params : Value) :
    Traced Refusal Notification := do
  let m ← .of (R.getNotification name)
  let (typed, payload) ← m.conform F params
  return ⟨m, typed, payload⟩

/-- The typed parameters of an incoming message. -/
def decodeParams (F : Family) (R : Registry) (name : String) (wire : Value) :
    Traced Refusal Value := do
  let m ← .of (R.get name)
  Traced.mapError m.refusal do
    let shape ← .of m.paramsShape
    decode F false wire shape

/-- The reply with an error, or with a result if the error is null. -/
def buildReply (F : Family) (R : Registry) (name : String) (result error : Value) :
    Except Refusal Reply := do
  let (m, replies) ← R.getRequest name
  if error.isNull then
    let payload ← (encode F result replies.result).mapError m.refusal
    return ⟨m, result, .null, payload⟩
  else
    let payload ← (encode F error replies.error).mapError m.refusal
    return ⟨m, .null, error, payload⟩

/-- A reply whose payload has to be either a result or an error, but not both. -/
def acceptResult (F : Family) (R : Registry) (name : String) (wire : Value) :
    Traced Refusal Reply := do
  let (m, replies) ← .of (R.getRequest name)
  let attempt (s : Shape) := Traced.mapError Refusal.fault (decode F false wire s).attempt
  match ← attempt replies.result, ← attempt replies.error with
  | .ok _, .ok _ =>
    .of (.error (.violation
      ((Mismatch.of (.union [replies.result, replies.error]) wire .bothReplies).forMethod m.name)))
  | .error e, .error _ =>
    .of (.error (.violation
      (Mismatch.forMethod m.name { e with reason := .neitherReply e.reason })))
  | .ok result, .error _ => return ⟨m, result, .null, wire⟩
  | .error _, .ok error => return ⟨m, .null, error, wire⟩

/-- The reply in a response, which has either a result or an error. -/
def acceptResponse (F : Family) (R : Registry) (name : String) (response : Value) :
    Traced Refusal Reply := do
  let (m, replies) ← .of (R.getRequest name)
  let violation (reason : Reason) : Traced Refusal Reply :=
    .of (.error (.violation
      ((Mismatch.of (.union [replies.result, replies.error]) response reason).forMethod m.name)))
  if !response.isObject then violation .responseNotObject
  else
    match response.at? "result", response.at? "error" with
    | some result, none => do
      let v ← ((decode F false result replies.result).under (.key "result")).mapError m.refusal
      return ⟨m, v, .null, result⟩
    | none, some error => do
      let v ← ((decode F false error replies.error).under (.key "error")).mapError m.refusal
      return ⟨m, .null, v, error⟩
    | _, _ => violation .notOneOutcome

end Registry

end EditorProtocol
