import EditorProtocol.Codec.Validation
import EditorProtocol.Proofs.Value.Json

/-!
Regular families of models. In a regular family every field has a key that no other field answers
to, null is what an absent field is filled with, and the alternatives of a union can be told apart:
by the form of their values on the wire, or, if both are records, by a field that the earlier one
needs and the later one does not know. All of this can be checked by computation.
-/

namespace EditorProtocol

/-! ### Shapes -/

/-- The form in which all values of a shape travel, if there is one; an integer may be a float. -/
def Shape.wireKind? : Shape → Option WireKind
  | .primitive p =>
    match p.kind with
    | .string => some .text
    | .integer => some .integer
    | .boolean => some .boolean
    | .float => none
    | .null => some .null
  | .enumeration e =>
    match e.codes with
    | .integers _ => some .integer
    | .texts _ => some .text
  | .record _ => some .object
  | .sequence _ => some .array
  | _ => none

/-- Codes as the scalars that they are. -/
def Codes.scalars : Codes → List Scalar
  | .integers ns => ns.map .int
  | .texts ss => ss.map .text

/-- Whether every code of an enumeration decodes to the member that it is the code of, where the
enumeration has members. -/
def EnumShape.isFaithful (e : EnumShape) : Bool :=
  e.members.isEmpty ||
    (match e.codes with
      | .integers ns => e.members.map (·.code) == ns.map .int
      | .texts ss => e.members.map (·.code) == ss.map .text) &&
    e.members.all fun m => e.memberOf? (.ofScalar m.code) == some m

/-- Whether the records of a model begin with a field that must be there and that another model
does not declare. -/
def Family.leads (F : Family) (a b : ModelRef) : Bool :=
  match F.find? a, F.find? b with
  | some m, some n =>
    match m.fields with
    | d :: _ => d.fallback.isNone && n.fields.all fun e => e.name != d.name && e.wire != d.wire
    | [] => false
  | _, _ => false

namespace Shape

/-- Whether no value of a later shape can be taken for one of an earlier shape. -/
def isApart (F : Family) : (earlier later : Shape) → Bool
  | .record a, .record b => F.leads a b
  | s, t =>
    match s.wireKind?, t.wireKind? with
    | some j, some k => j != k
    | _, _ => false

/-- Whether the alternatives of a union can be told apart in their order. -/
def areApart (F : Family) : List Shape → Bool
  | [] => true
  | s :: rest => rest.all (s.isApart F) && areApart F rest

mutual

/-- Whether a shape is made of models of a family, faithful enumerations and unions whose
alternatives can be told apart. Floats are left out, as not every integer is one. -/
def isRegular (F : Family) : Shape → Bool
  | .primitive p => p.kind != .float
  | .enumeration e => e.isFaithful
  | .record ref => (F.find? ref).isSome
  | .union alternatives => areRegular F alternatives && areApart F alternatives
  | .sequence element => element.isRegular F
  | .nullable inner => inner.isRegular F
  | .any => true

def areRegular (F : Family) : List Shape → Bool
  | [] => true
  | s :: rest => s.isRegular F && areRegular F rest

end

mutual

/-- Whether no record of a model can be taken for a value of a shape, and no value for a record;
values of the shape may also be null or of one of several alternatives. -/
def isAside (F : Family) (ref : ModelRef) : Shape → Bool
  | .nullable inner => inner.isAside F ref
  | .union alternatives => areAside F ref alternatives
  | s => s.isApart F (.record ref) && Shape.isApart F (.record ref) s

def areAside (F : Family) (ref : ModelRef) : List Shape → Bool
  | [] => true
  | s :: rest => s.isAside F ref && areAside F ref rest

end

end Shape

/-! ### Types -/

/-- Whether a mark bounds nothing. -/
def Mark.isFree : Mark → Bool
  | .bounds _ _ _ _ => false
  | _ => true

/-- Whether marks bound an integer at most once on each side. -/
def Mark.areSimple : List Mark → Bool
  | [] => true
  | [.bounds atLeast above atMost below] =>
    !(atLeast.isSome && above.isSome) && !(atMost.isSome && below.isSome)
  | _ => false

/-- Whether the codes of an enumeration are read as what they are. -/
def EnumType.isReadable (t : EnumType) : Bool :=
  t.members.all fun m =>
    match t.base, m.code with
    | .integer, .int n => decide (-9223372036854775808 ≤ n ∧ n ≤ 9223372036854775807)
    | .text, .text _ => true
    | .plain, _ => true
    | _, _ => false

/-- Whether a listed code is a number or a text and no member. -/
def Code.isPlain : Code → Bool
  | .plain (.int _) => true
  | .plain (.text _) => true
  | _ => false

namespace TypeExpr

mutual

/-- Whether a type takes its own values exactly and only by what they are. -/
def isSharp : TypeExpr → Bool
  | .any => false
  | .literal _ => false
  | .sequence element => element.isSharp
  | .named _ t => t.isSharp
  | .marked t _ => t.isSharp
  | .union members _ => areSharp members
  | _ => true

def areSharp : List TypeExpr → Bool
  | [] => true
  | t :: rest => t.isSharp && areSharp rest

end

/-- Whether a type is an integer, perhaps with bounds. -/
def isInteger : TypeExpr → Bool
  | .integer => true
  | .marked .integer _ => true
  | _ => false

mutual

/-- Whether a type is of the forms in which payloads are declared: bounds on integers only, and
nothing loose in a union of several types. -/
def isPlain (marks : List Mark) : TypeExpr → Bool
  | .any | .boolean | .text | .model _ => marks.all Mark.isFree
  | .integer => Mark.areSimple marks
  | .enumeration t => marks.all Mark.isFree && t.isReadable
  | .literal codes => marks.all Mark.isFree && codes.all Code.isPlain
  | .sequence element => marks.all Mark.isFree && element.isPlain []
  | .named _ t => t.isPlain marks
  | .marked t own => t.isPlain (own ++ marks)
  | .union members _ =>
    if (members.filter (!·.isNull)).length == 1 then arePlain marks members
    else marks.all Mark.isFree && arePlain [] members && areSharp members
  | _ => false

def arePlain (marks : List Mark) : List TypeExpr → Bool
  | [] => true
  | t :: rest => (t.isNull || t.isPlain marks) && arePlain marks rest

end

end TypeExpr

/-! ### Models -/

/-- The field of a declaration whose type has a shape. -/
def FieldDecl.asField (d : FieldDecl) : Field := d.field.toOption.getD default

structure FieldDecl.Regular (F : Family) (d : FieldDecl) : Prop where
  shaped : d.field.isOk = true
  shape : d.asField.shape.isRegular F = true
  plain : d.type.isPlain [] = true
  fallback : d.fallback.all Value.isNull = true

/-- A field that must be there, under its own name, with a type of some kind. -/
def Model.Needs (m : Model) (name : String) (p : TypeExpr → Bool) : Prop :=
  ∃ d ∈ m.fields, d.name = name ∧ d.wire = name ∧ d.fallback.isNone = true ∧ p d.type = true

/-- A position has a line and a character. -/
def Family.isPositional (F : Family) (t : TypeExpr) : Bool :=
  match t with
  | .model ref =>
    match F.find? ref with
    | some m => ref.kind == .position &&
      m.fields.any (fun d => d.name == "line" && d.wire == "line" && d.fallback.isNone &&
        d.type.isInteger) &&
      m.fields.any fun d => d.name == "character" && d.wire == "character" &&
        d.fallback.isNone && d.type.isInteger
    | none => false
  | _ => false

structure Model.Regular (F : Family) (m : Model) : Prop where
  names : (m.fields.map (·.name)).Nodup
  wires : (m.fields.map (·.wire)).Nodup
  byName : m.byName = true
  apart : ∀ d ∈ m.fields, ∀ e ∈ m.fields, d.wire = e.name → d.name = e.name
  fields : ∀ d ∈ m.fields, d.Regular F
  start : m.ordered = true → m.Needs "start" F.isPositional
  stop : m.ordered = true → m.Needs "end" F.isPositional

/-- A family of regular models. -/
def Family.Regular (F : Family) : Prop := ∀ m ∈ F.models, m.Regular F

instance (F : Family) (d : FieldDecl) : Decidable (d.Regular F) :=
  decidable_of_iff
    (d.field.isOk = true ∧ d.asField.shape.isRegular F = true ∧ d.type.isPlain [] = true ∧
      d.fallback.all Value.isNull = true)
    ⟨fun ⟨a, b, c, e⟩ => ⟨a, b, c, e⟩, fun ⟨a, b, c, e⟩ => ⟨a, b, c, e⟩⟩

instance (m : Model) (name : String) (p : TypeExpr → Bool) : Decidable (m.Needs name p) :=
  inferInstanceAs (Decidable (∃ d ∈ m.fields, _))

instance (F : Family) (m : Model) : Decidable (m.Regular F) :=
  decidable_of_iff
    ((m.fields.map (·.name)).Nodup ∧ (m.fields.map (·.wire)).Nodup ∧ m.byName = true ∧
      (∀ d ∈ m.fields, ∀ e ∈ m.fields, d.wire = e.name → d.name = e.name) ∧
      (∀ d ∈ m.fields, d.Regular F) ∧ (m.ordered = true → m.Needs "start" F.isPositional) ∧
      (m.ordered = true → m.Needs "end" F.isPositional))
    ⟨fun ⟨a, b, c, d, e, f, g⟩ => ⟨a, b, c, d, e, f, g⟩,
      fun ⟨a, b, c, d, e, f, g⟩ => ⟨a, b, c, d, e, f, g⟩⟩

instance (F : Family) : Decidable F.Regular :=
  inferInstanceAs (Decidable (∀ m ∈ F.models, m.Regular F))

end EditorProtocol
