import EditorProtocol.Codec.Encode

/-!
Methods of the protocol. A request waits for a reply, which carries a result or an error; a
notification waits for nothing. A declaration is accepted only if it says so consistently.
-/

namespace EditorProtocol

/-- Whether a message of a method waits for a reply. -/
inductive Direction where
  | request
  | notification
deriving DecidableEq, Repr, Inhabited

def Direction.name : Direction → String
  | .request => "request"
  | .notification => "notification"

/-- The shapes of what may come back for a request. -/
structure Replies where
  result : Shape
  error : Shape
deriving Repr, Inhabited

/-- A method with the shapes of its payloads. A method whose parameters are left undeclared can
be registered, but no message of it can be built or read. -/
structure Method where
  name : String
  params : Option Shape
  replies : Option Replies
deriving Repr, Inhabited

/-- Why a method cannot be declared or registered. -/
inductive RegistrationError where
  | shape (e : DefinitionError)
  | noName
  /-- Something that has no length, by its kind. -/
  | notName (kind : String)
  /-- Something that may change, by its kind. -/
  | changing (kind : String)
  | noReplies (method : String)
  | strayReplies (method : String)
  | frozen (method registry : String)
  | taken (method : String)
deriving DecidableEq, Repr

def RegistrationError.message : RegistrationError → String
  | .shape e => e.message
  | .noName => "Method name must not be empty"
  | .notName kind => "object of type '" ++ kind ++ "' has no len()"
  | .changing kind => "unhashable type: '" ++ kind ++ "'"
  | .noReplies name => "Request '" ++ name ++ "' must declare both a result and an error shape"
  | .strayReplies name =>
    "Notification '" ++ name ++ "' must not declare a result or an error shape"
  | .frozen name registry =>
    "Cannot register '" ++ name ++ "', registry " ++ registry ++ " is frozen"
  | .taken name => "Method '" ++ name ++ "' is already registered"

namespace Method

def direction (m : Method) : Direction :=
  if m.replies.isSome then .request else .notification

def isRequest (m : Method) : Bool := m.replies.isSome

/-- The name that a value is: a text, or what the code of an enumeration member is written as. No
method has any other value as its name. -/
def nameOf? : Value → Option String
  | .text s => some s
  | .member m => some (Value.ofScalar m.code).plain
  | _ => none

/-- The name that is declared with a value: it is made of something, and of nothing that may
change. -/
def declaredName (v : Value) : Except RegistrationError String :=
  match nameOf? v, v.count?, v.changing? with
  | some name, _, _ => if name.isEmpty then .error .noName else .ok name
  | none, none, _ => .error (.notName v.kindName)
  | none, some 0, _ => .error .noName
  | none, some _, some kind => .error (.changing kind)
  | none, some _, none => .ok v.plain

/-- The replies that are declared with a direction: a request says what they are, a notification
has none. -/
def declaredReplies (name : String) :
    Direction → (result error : Option Shape) → Except RegistrationError (Option Replies)
  | .request, some result, some error => .ok (some ⟨result, error⟩)
  | .request, _, _ => .error (.noReplies name)
  | .notification, none, none => .ok none
  | .notification, _, _ => .error (.strayReplies name)

/-- A declaration of a method. -/
def declare (name : Value) (direction : Direction) (params result error : Option Shape) :
    Except RegistrationError Method := do
  let name ← declaredName name
  return ⟨name, params, ← declaredReplies name direction result error⟩

/-- The shapes of a method's payloads: of its parameters, its result and its error. -/
def shapes (m : Method) : List Shape :=
  m.params.toList ++ (m.replies.map fun r => [r.result, r.error]).getD []

/-- Whether two methods agree in name, direction and payloads. -/
def same (m n : Method) : Bool :=
  m.name == n.name && m.params.map Shape.untyped == n.params.map Shape.untyped &&
    m.replies.map (fun r => (r.result.untyped, r.error.untyped)) ==
      n.replies.map fun r => (r.result.untyped, r.error.untyped)

/-- The shape of the parameters, where one is declared. -/
def paramsShape (m : Method) : Except Fault Shape :=
  match m.params with
  | some s => .ok s
  | none => .error (.definition .undeclared)

end Method

end EditorProtocol
