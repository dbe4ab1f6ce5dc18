import EditorProtocol.Shape.Reach

/-!
Which shapes have finite values. A union has one if some alternative does, a record if all its
required fields do; null, the empty array and scalars end every value. A record met again on the
way to itself has none. A shape is acceptable if every record in it has a finite value.
-/

namespace EditorProtocol

namespace Family

mutual

/-- Whether a shape has a finite value that does not need the records being visited. -/
def isFinite (F : Family) (visiting : List ModelRef) (s : Shape) : Except DefinitionError Bool :=
  match s with
  | .union alternatives => F.anyFinite visiting alternatives
  | .record ref =>
    if _hv : ref ∈ visiting then .ok false
    else
      match _h : F.find? ref with
      | none => .ok true
      | some m =>
        match m.fields.mapM (·.field) with
        | .error e => .error e
        | .ok fields => F.allFinite (ref :: visiting) fields
  | _ => .ok true
termination_by (F.unvisited visiting, sizeOf s)
decreasing_by
  · exact Prod.Lex.right _ (by simp +arith)
  · exact Prod.Lex.left _ _ (unvisited_lt _h _hv)

/-- Whether some alternative has a finite value. -/
def anyFinite (F : Family) (visiting : List ModelRef) (ss : List Shape) :
    Except DefinitionError Bool :=
  match ss with
  | [] => .ok false
  | s :: rest => do
    if ← F.isFinite visiting s then return true
    F.anyFinite visiting rest
termination_by (F.unvisited visiting, sizeOf ss)
decreasing_by
  · exact Prod.Lex.right _ (by simp +arith)
  · exact Prod.Lex.right _ (by simp +arith)

/-- Whether every required field has a finite value. -/
def allFinite (F : Family) (visiting : List ModelRef) (fs : List Field) :
    Except DefinitionError Bool :=
  match fs with
  | [] => .ok true
  | f :: rest => do
    if f.optional then F.allFinite visiting rest
    else if ← F.isFinite visiting f.shape then F.allFinite visiting rest
    else return false
termination_by (F.unvisited visiting, sizeOf fs)
decreasing_by
  · exact Prod.Lex.right _ (by simp +arith)
  · have := f.sizeOf_shape_lt
    exact Prod.Lex.right _ (by simp only [List.cons.sizeOf_spec]; omega)
  · exact Prod.Lex.right _ (by simp +arith)

end

/-- Refuses the first record of a list that has no finite value. -/
def checkRecords (F : Family) : List Shape → Except DefinitionError Unit
  | [] => .ok ()
  | .record ref :: rest => do
    if ← F.isFinite [] (.record ref) then F.checkRecords rest
    else .error (.infinite ref.name)
  | _ :: rest => F.checkRecords rest

/-- Refuses a shape if some record in it has no finite value. -/
def checkAcyclic (F : Family) (s : Shape) : Except DefinitionError Unit := do
  let w := F.walk s
  F.checkRecords w.shapes
  match w.failure with
  | some e => .error e
  | none => .ok ()

end Family

end EditorProtocol
