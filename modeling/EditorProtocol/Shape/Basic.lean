import EditorProtocol.Value.Render

/-!
Wire shapes: what a message payload looks like on the wire. A record shape names its model, whose
fields a family of models holds, so shapes of mutually recursive models stay finite trees. Two
enumeration shapes count as the same shape if name and codes agree, whether or not their codes are
written as members or decode to members.
-/

namespace EditorProtocol

/-- The kinds of primitive wire values. -/
inductive PrimitiveKind where
  | string
  | integer
  | boolean
  | float
  | null
deriving DecidableEq, Repr, Inhabited

def PrimitiveKind.name : PrimitiveKind → String
  | .string => "string"
  | .integer => "integer"
  | .boolean => "boolean"
  | .float => "float"
  | .null => "null"

/-- A primitive kind and the bounds of its integers. -/
structure Primitive where
  kind : PrimitiveKind
  minimum : Option Int
  maximum : Option Int
deriving DecidableEq, Repr, Inhabited

/-- The codes of an enumeration, all of one kind. -/
inductive Codes where
  | integers (ns : List Int)
  | texts (ss : List String)
deriving DecidableEq, Repr, Inhabited

def Codes.kind : Codes → PrimitiveKind
  | .integers _ => .integer
  | .texts _ => .string

/-- A code as it is listed: by itself, or as a member of an enumeration. -/
inductive Code where
  | plain (code : Scalar)
  | member (m : EnumMember)
deriving DecidableEq, Repr, Inhabited

namespace Code

def value : Code → Value
  | .plain code => .ofScalar code
  | .member m => .member m

/-- The code itself. -/
def scalar : Code → Scalar
  | .plain code => code
  | .member m => m.code

def render : Code → String
  | .plain code => code.render
  | .member m => m.render

/-- What a listed code is as a number or a text; a member is one only if its enumeration is made of
such. -/
def based : Code → Scalar
  | .plain code => code
  | .member m => if m.base == .plain then .null else m.code

end Code

/-- A value as a listed code; what is made of parts counts as null, which is no code of any
enumeration. -/
def Value.code : Value → Code
  | .bool b => .plain (.bool b)
  | .int n => .plain (.int n)
  | .float x => .plain (.float x)
  | .text s => .plain (.text s)
  | .member m => .member m
  | _ => .plain .null

/-- Codes of an enumeration, how they are written, and the members they decode to; without members
a code stands for itself. -/
structure EnumShape where
  name : String
  codes : Codes
  written : List String
  members : List EnumMember
deriving DecidableEq, Repr, Inhabited

inductive Shape where
  | primitive (p : Primitive)
  | enumeration (e : EnumShape)
  | record (model : ModelRef)
  | union (alternatives : List Shape)
  | sequence (element : Shape)
  | nullable (inner : Shape)
  | any
deriving Repr, Inhabited

/-- A field of a record shape: its attribute name, its key on the wire, its shape, and whether it
may be absent. -/
structure Field where
  name : String
  wire : String
  shape : Shape
  optional : Bool
deriving Repr, Inhabited

/-- Why a type has no usable shape. -/
inductive DefinitionError where
  | noShape (type : String)
  | noCodes (enumeration : String)
  | mixedCodes (enumeration : String)
  | fewAlternatives
  /-- A union of no types at all. -/
  | noTypes
  | infinite (record : String)
  | undeclared
deriving DecidableEq, Repr

def DefinitionError.message : DefinitionError → String
  | .noShape type => "Cannot derive a wire shape from " ++ type
  | .noCodes name => "Enumeration " ++ name ++ " has no values"
  | .mixedCodes name =>
    "Enumeration " ++ name ++ " must hold only integer or only string codes"
  | .fewAlternatives => "A union needs at least two alternatives"
  | .noTypes => "Cannot take a Union of no types."
  | .infinite name => "Record " ++ name ++ " requires itself through a non-sequence field"
  | .undeclared => "Unknown shape None"

/-- The integers in a list of codes that holds nothing else. -/
def Scalar.integers? (codes : List Scalar) : Option (List Int) :=
  codes.mapM fun
    | .int n => some n
    | _ => none

/-- The texts in a list of codes that holds nothing else. -/
def Scalar.texts? (codes : List Scalar) : Option (List String) :=
  codes.mapM fun
    | .text s => some s
    | _ => none

namespace EnumShape

/-- The shape of an enumeration; its codes are integers only or texts only, at least one. -/
def ofCodes (name : String) (codes : List Scalar) (members : List EnumMember) :
    Except DefinitionError EnumShape :=
  if codes.isEmpty then .error (.noCodes name)
  else
    let written := codes.map Scalar.render
    match Scalar.texts? codes, Scalar.integers? codes with
    | some ss, _ => .ok ⟨name, .texts ss, written, members⟩
    | none, some ns => .ok ⟨name, .integers ns, written, members⟩
    | none, none => .error (.mixedCodes name)

/-- The shape that admits listed codes, which stand for themselves. -/
def listing (name : String) (codes : List Code) : Except DefinitionError EnumShape := do
  return { ← ofCodes name (codes.map Code.based) [] with written := codes.map Code.render }

/-- The shape without its members and their forms, which equality of shapes looks at. -/
def untyped (e : EnumShape) : EnumShape := { e with written := [], members := [] }

end EnumShape

namespace Shape

def ofKind (kind : PrimitiveKind) : Shape := .primitive ⟨kind, none, none⟩

def null : Shape := ofKind .null

/-- A union of at least two alternatives. -/
def ofAlternatives (alternatives : List Shape) : Except DefinitionError Shape :=
  if alternatives.length < 2 then .error .fewAlternatives else .ok (.union alternatives)

def isNullable : Shape → Bool
  | .nullable _ => true
  | _ => false

mutual

def decEq : (a b : Shape) → Decidable (a = b)
  | .primitive p, .primitive q =>
    if h : p = q then isTrue (by rw [h]) else isFalse (fun e => h (by injection e))
  | .enumeration p, .enumeration q =>
    if h : p = q then isTrue (by rw [h]) else isFalse (fun e => h (by injection e))
  | .record p, .record q =>
    if h : p = q then isTrue (by rw [h]) else isFalse (fun e => h (by injection e))
  | .union xs, .union ys =>
    match decEqAll xs ys with
    | isTrue h => isTrue (by rw [h])
    | isFalse h => isFalse (fun e => h (by injection e))
  | .sequence x, .sequence y =>
    match decEq x y with
    | isTrue h => isTrue (by rw [h])
    | isFalse h => isFalse (fun e => h (by injection e))
  | .nullable x, .nullable y =>
    match decEq x y with
    | isTrue h => isTrue (by rw [h])
    | isFalse h => isFalse (fun e => h (by injection e))
  | .any, .any => isTrue rfl
  | .primitive _, .enumeration _ | .primitive _, .record _ | .primitive _, .union _
  | .primitive _, .sequence _ | .primitive _, .nullable _ | .primitive _, .any
  | .enumeration _, .primitive _ | .enumeration _, .record _ | .enumeration _, .union _
  | .enumeration _, .sequence _ | .enumeration _, .nullable _ | .enumeration _, .any
  | .record _, .primitive _ | .record _, .enumeration _ | .record _, .union _
  | .record _, .sequence _ | .record _, .nullable _ | .record _, .any
  | .union _, .primitive _ | .union _, .enumeration _ | .union _, .record _
  | .union _, .sequence _ | .union _, .nullable _ | .union _, .any
  | .sequence _, .primitive _ | .sequence _, .enumeration _ | .sequence _, .record _
  | .sequence _, .union _ | .sequence _, .nullable _ | .sequence _, .any
  | .nullable _, .primitive _ | .nullable _, .enumeration _ | .nullable _, .record _
  | .nullable _, .union _ | .nullable _, .sequence _ | .nullable _, .any
  | .any, .primitive _ | .any, .enumeration _ | .any, .record _ | .any, .union _
  | .any, .sequence _ | .any, .nullable _ => isFalse (fun e => by injection e)

def decEqAll : (xs ys : List Shape) → Decidable (xs = ys)
  | [], [] => isTrue rfl
  | [], _ :: _ => isFalse (fun e => by injection e)
  | _ :: _, [] => isFalse (fun e => by injection e)
  | x :: xs, y :: ys =>
    match decEq x y, decEqAll xs ys with
    | isTrue h, isTrue t => isTrue (by rw [h, t])
    | isFalse h, _ => isFalse (fun e => h (by injection e))
    | _, isFalse t => isFalse (fun e => t (by injection e))

end

instance : DecidableEq Shape := decEq

mutual

/-- The shape without the members of its enumerations. -/
@[simp]
def untyped : Shape → Shape
  | .enumeration e => .enumeration e.untyped
  | .union alternatives => .union (untypedAll alternatives)
  | .sequence element => .sequence element.untyped
  | .nullable inner => .nullable inner.untyped
  | s => s

@[simp]
def untypedAll : List Shape → List Shape
  | [] => []
  | s :: rest => s.untyped :: untypedAll rest

end

/-- Whether two shapes are the same shape. -/
def same (a b : Shape) : Bool := a.untyped == b.untyped

end Shape

/-- The written form of a primitive: its kind and, if it has one, its interval. -/
def Primitive.describe (p : Primitive) : String :=
  match p.minimum, p.maximum with
  | none, none => p.kind.name
  | low, high =>
    let low := (low.map toString).getD "-inf"
    let high := (high.map toString).getD "inf"
    p.kind.name ++ " in [" ++ low ++ ", " ++ high ++ "]"

def EnumShape.describe (e : EnumShape) : String :=
  e.name ++ "(" ++ ", ".intercalate e.written ++ ")"

namespace Shape

/-- Whether the shape needs parentheses as the element of a sequence. -/
def isChoice : Shape → Bool
  | .union _ => true
  | .nullable _ => true
  | _ => false

mutual

/-- The written form of a shape. -/
def describe : Shape → String
  | .primitive p => p.describe
  | .enumeration e => e.describe
  | .record model => model.name
  | .union alternatives => " | ".intercalate (describeAll alternatives)
  | .sequence element =>
    if element.isChoice then "(" ++ element.describe ++ ")[]" else element.describe ++ "[]"
  | .nullable inner => inner.describe ++ " | null"
  | .any => "any"

def describeAll : List Shape → List String
  | [] => []
  | s :: rest => s.describe :: describeAll rest

end

/-- The name of the kind of a shape. -/
def kindName : Shape → String
  | .primitive _ => "primitive"
  | .enumeration _ => "enum"
  | .record _ => "record"
  | .union _ => "union"
  | .sequence _ => "sequence"
  | .nullable _ => "nullable"
  | .any => "opaque"

end Shape

/-- Whether null is a value of the field of its own. -/
def Field.nullable (f : Field) : Bool := f.shape.isNullable

/-- The field of a list with a given key on the wire. -/
def Field.find? : List Field → String → Option Field
  | [], _ => none
  | f :: rest, wire => if f.wire = wire then some f else Field.find? rest wire

theorem Field.sizeOf_shape_lt (f : Field) : sizeOf f.shape < sizeOf f := by
  cases f
  simp only [Field.mk.sizeOf_spec]
  omega

theorem Field.sizeOf_lt_of_find? {fs : List Field} {wire : String} {f : Field}
    (h : Field.find? fs wire = some f) : sizeOf f < sizeOf fs := by
  induction fs with
  | nil => simp [Field.find?] at h
  | cons g rest ih =>
    simp only [Field.find?] at h
    split at h
    · cases h
      simp only [List.cons.sizeOf_spec]
      omega
    · have := ih h
      simp only [List.cons.sizeOf_spec]
      omega

end EditorProtocol
