import EditorProtocol.Method.Basic

/-!
Registries bind method names to methods, in the order of registration. A name is bound once, only
to payloads with finite values, and nothing is bound after the registry was frozen.
-/

namespace EditorProtocol

structure Registry where
  name : String
  version : String
  methods : List Method
  isFrozen : Bool
deriving Repr, Inhabited

namespace Registry

/-- A registry without methods. -/
def empty (name version : String) : Registry := ⟨name, version, [], false⟩

/-- The method of a name. -/
def find? (R : Registry) (name : String) : Option Method := R.methods.find? (·.name == name)

def contains (R : Registry) (name : String) : Bool := (R.find? name).isSome

def size (R : Registry) : Nat := R.methods.length

def freeze (R : Registry) : Registry := { R with isFrozen := true }

/-- The written form of a registry. -/
def render (R : Registry) : String :=
  "MethodRegistry(" ++ Text.quoted R.name ++ ", " ++ Text.quoted R.version ++ ", methods=" ++
    toString R.size ++ ")"

/-- Refuses a list of shapes unless every record in them has a finite value. -/
def checkShapes (F : Family) : List Shape → Except RegistrationError Unit
  | [] => .ok ()
  | s :: rest => do
    (F.checkAcyclic s).mapError .shape
    checkShapes F rest

/-- The registry with one more method. -/
def register (F : Family) (R : Registry) (m : Method) : Except RegistrationError Registry :=
  if R.isFrozen then .error (.frozen m.name R.name)
  else if R.contains m.name then .error (.taken m.name)
  else do
    checkShapes F m.shapes
    return { R with methods := R.methods ++ [m] }

/-- The method of a request, its payloads given by type. -/
def requestOf (name : Value) (params result error : TypeExpr) :
    Except RegistrationError Method := do
  let params ← params.shape.mapError .shape
  let result ← result.shape.mapError .shape
  let error ← error.shape.mapError .shape
  Method.declare name .request (some params) (some result) (some error)

/-- The method of a notification, its parameters given by type. -/
def notificationOf (name : Value) (params : TypeExpr) : Except RegistrationError Method := do
  let params ← params.shape.mapError .shape
  Method.declare name .notification (some params) none none

def request (F : Family) (R : Registry) (name : Value) (params result error : TypeExpr) :
    Except RegistrationError Registry := do
  R.register F (← requestOf name params result error)

def notification (F : Family) (R : Registry) (name : Value) (params : TypeExpr) :
    Except RegistrationError Registry := do
  R.register F (← notificationOf name params)

end Registry

/-- A place where a value may be taken for something else: a union with alternatives that share a
value, or a request whose result may be taken for an error. -/
inductive Ambiguity where
  | alternatives (method : String) (union : Shape)
  | replies (method : String) (replies : Replies)
deriving Repr

def Ambiguity.message : Ambiguity → String
  | .alternatives method union =>
    method ++ ": union alternatives overlap (" ++ union.describe ++ ")"
  | .replies method r =>
    method ++ ": result and error shapes overlap (" ++
      (Shape.union [r.result, r.error]).describe ++ ")"

namespace Method

/-- The ambiguous unions of a list of shapes, each of them once. -/
def ambiguousUnions (F : Family) (reported : List Shape) :
    List Shape → Except DefinitionError (List Shape)
  | [] => .ok reported
  | s :: rest => do
    let unions ← F.ambiguousUnions s
    let reported := unions.foldl (fun acc u =>
      if acc.any (·.same u) then acc else acc ++ [u]) reported
    ambiguousUnions F reported rest

/-- What is ambiguous about the payloads of a method. -/
def ambiguities (F : Family) (m : Method) : Except DefinitionError (List Ambiguity) := do
  let unions ← ambiguousUnions F [] m.shapes
  let unions := unions.map (.alternatives m.name)
  match m.replies with
  | none => return unions
  | some r =>
    if ← F.mayOverlap r.result r.error then return unions ++ [.replies m.name r]
    else return unions

end Method

/-- What is ambiguous about the payloads of the registered methods. -/
def Registry.ambiguities (F : Family) (R : Registry) : Except DefinitionError (List Ambiguity) :=
  do return (← R.methods.mapM (·.ambiguities F)).flatten

end EditorProtocol
