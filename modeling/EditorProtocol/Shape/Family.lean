import EditorProtocol.Shape.Wire
import EditorProtocol.Text.Letters

/-!
Record models and families of them. A model lists its fields, those of its parents first, and may
require that its start does not come after its end. A family is a finite list of models; models
refer to one another by reference, so they may be recursive in any way.
-/

namespace EditorProtocol

/-- A declared field; it is optional if there is a value to fill in for it. -/
structure FieldDecl where
  name : String
  wire : String
  type : TypeExpr
  fallback : Option Value
deriving Repr, Inhabited

namespace FieldDecl

/-- A field that must be there, its key in camel case. -/
def required (name : String) (type : TypeExpr) : FieldDecl :=
  ⟨name, Text.camelCase name, type, none⟩

/-- A field that may be left out, null then stands for its absence. -/
def optional (name : String) (type : TypeExpr) : FieldDecl :=
  ⟨name, Text.camelCase name, type.optional, some .null⟩

/-- A field that may be left out and may also be null. -/
def nullable (name : String) (type : TypeExpr) : FieldDecl :=
  ⟨name, Text.camelCase name, type.nullable, some .null⟩

/-- The field of the record shape: on an optional field without the mark to keep it, null only
stands for absence. -/
def field (d : FieldDecl) : Except DefinitionError Field := do
  let optional := d.fallback.isSome
  let shape ← d.type.shape
  match shape with
  | .nullable inner =>
    if optional && !d.type.marks.contains .keepNull then
      return ⟨d.name, d.wire, inner, optional⟩
    else return ⟨d.name, d.wire, shape, optional⟩
  | _ => return ⟨d.name, d.wire, shape, optional⟩

end FieldDecl

structure Model where
  ref : ModelRef
  parents : List ModelRef
  fields : List FieldDecl
  /-- Whether the field `start` may not come after the field `end`. -/
  ordered : Bool
  /-- Whether the values of fields may be given under the names of the fields, too. -/
  byName : Bool
deriving Repr, Inhabited

namespace Model

/-- The declarations of a later model replace those of the same name in place and add others. -/
def override : List FieldDecl → List FieldDecl → List FieldDecl
  | fields, [] => fields
  | fields, d :: rest =>
    if fields.any (·.name == d.name) then
      override (fields.map fun f => if f.name == d.name then d else f) rest
    else override (fields ++ [d]) rest

/-- A model without parents. -/
def named (name : String) (fields : List FieldDecl) : Model :=
  ⟨ModelRef.named name, [], override [] fields, false, true⟩

/-- A model with parents: the fields of the last parent come first, its own come last. -/
def extending (ref : ModelRef) (parents : List Model) (fields : List FieldDecl) : Model :=
  let inherited := parents.reverse.foldl (fun acc p => override acc p.fields) []
  ⟨ref, parents.map (·.ref), override inherited fields, parents.any (·.ordered),
    parents.all (·.byName)⟩

/-- The type of the records of a model. -/
def type (m : Model) : TypeExpr := .model m.ref

/-- The model with records of a kind. -/
def ofKind (kind : RecordKind) (m : Model) : Model := { m with ref := m.ref.ofKind kind }

/-- The model with the rule that its start does not come after its end. -/
def withOrder (m : Model) : Model := { m with ordered := true }

def declares (m : Model) (name : String) : Bool := m.fields.any (·.name == name)

end Model

/-- A finite family of models. -/
structure Family where
  models : List Model
deriving Repr, Inhabited

namespace Family

def find? (F : Family) (ref : ModelRef) : Option Model := F.models.find? (·.ref = ref)

/-- A reference for one more model of a name, with records of the kind of its parent. -/
def newRef (F : Family) (name : String) (parent : Option ModelRef) : ModelRef :=
  ⟨name, (F.models.filter (·.ref.name == name)).length,
    (parent.map (·.kind)).getD .changing⟩

/-- The fields of a model; a reference without a model has none. -/
def fields (F : Family) (ref : ModelRef) : Except DefinitionError (List Field) :=
  match F.find? ref with
  | some m => m.fields.mapM (·.field)
  | none => .ok []

/-- The models that a list of references does not name: what is left to visit. -/
def unvisited (F : Family) (visited : List ModelRef) : Nat :=
  F.models.countP fun m => !visited.contains m.ref

theorem mem_of_find? {F : Family} {ref : ModelRef} {m : Model} (h : F.find? ref = some m) :
    m ∈ F.models ∧ m.ref = ref := by
  refine ⟨List.mem_of_find?_eq_some h, ?_⟩
  have := List.find?_some h
  simpa using this

theorem countP_lt {α : Type} {p q : α → Bool} {xs : List α} {x : α} (hx : x ∈ xs)
    (hpq : ∀ y, p y = true → q y = true) (hp : p x = false) (hq : q x = true) :
    xs.countP p < xs.countP q := by
  induction xs with
  | nil => cases hx
  | cons y ys ih =>
    have mono : ys.countP p ≤ ys.countP q := List.countP_mono_left fun z _ h => hpq z h
    simp only [List.countP_cons]
    rcases List.mem_cons.1 hx with rfl | hy
    · simp [hp, hq]
      omega
    · have less := ih hy
      have step : (if p y = true then 1 else 0) ≤ if q y = true then 1 else 0 := by
        split
        · rename_i h
          exact Nat.le_of_eq (if_pos (hpq y h)).symm
        · exact Nat.zero_le _
      omega

/-- Visiting a model of the family leaves fewer to visit. -/
theorem unvisited_lt {F : Family} {ref : ModelRef} {m : Model} {visited : List ModelRef}
    (h : F.find? ref = some m) (hv : ref ∉ visited) :
    F.unvisited (ref :: visited) < F.unvisited visited := by
  obtain ⟨hm, hr⟩ := mem_of_find? h
  refine countP_lt hm ?_ ?_ ?_
  · intro y hy
    simp_all
  · simp [hr]
  · simp [hr, hv]

/-- Visiting more never leaves more. -/
theorem unvisited_le {F : Family} (ref : ModelRef) (visited : List ModelRef) :
    F.unvisited (ref :: visited) ≤ F.unvisited visited := by
  refine List.countP_mono_left fun y _ hy => ?_
  simp_all

end Family

end EditorProtocol
