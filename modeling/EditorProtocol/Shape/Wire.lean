import EditorProtocol.Shape.Printed

/-!
The wire shape of a type. A union with the null type becomes a nullable shape of the other
alternatives. Marks on an integer type bound it: of several bounds on one side the last one counts.
-/

namespace EditorProtocol

/-- The lower bound after a list of marks; the last one that sets it counts. -/
def Mark.minimum (marks : List Mark) : Option Int :=
  marks.foldl (fun low m =>
    match m with
    | .bounds atLeast above _ _ => (above.map (· + 1)).or (atLeast.or low)
    | _ => low) none

/-- The upper bound after a list of marks; the last one that sets it counts. -/
def Mark.maximum (marks : List Mark) : Option Int :=
  marks.foldl (fun high m =>
    match m with
    | .bounds _ _ atMost below => (below.map (· - 1)).or (atMost.or high)
    | _ => high) none

namespace TypeExpr

mutual

/-- The wire shape of a type that carries marks from outside. -/
def shapeUnder (marks : List Mark) : TypeExpr → Except DefinitionError Shape
  | .shaped shape => .ok shape
  | .marked type own => type.shapeUnder (own ++ marks)
  | .any => .ok .any
  | .null => .ok .null
  | .union [] _ => .error .noTypes
  | .union members _ => do
    let single := (members.filter (!·.isNull)).length == 1
    let shapes ← shapesUnder (if single then marks else []) members
    let inner ←
      match shapes with
      | [s] => Except.ok s
      | _ => Shape.ofAlternatives shapes
    return if members.any (·.isNull) then .nullable inner else inner
  | .literal codes =>
    return .enumeration (← EnumShape.ofCodes "Literal" (codes.map Code.scalar) [])
  | .sequence element => return .sequence (← element.shapeUnder [])
  | .list => .ok (.sequence .any)
  | .named _ type => type.shapeUnder marks
  | .enumeration type =>
    return .enumeration (← EnumShape.ofCodes type.name (type.members.map (·.code)) type.members)
  | .model ref => .ok (.record ref)
  | .boolean => .ok (Shape.ofKind .boolean)
  | .integer => .ok (.primitive ⟨.integer, Mark.minimum marks, Mark.maximum marks⟩)
  | .float => .ok (Shape.ofKind .float)
  | .text => .ok (Shape.ofKind .string)
  | .foreign name => .error (.noShape ("<class '" ++ name ++ "'>"))
  | .mapping key value => .error (.noShape (mapping key value).printed)

/-- The shapes of the members of a union other than null. -/
def shapesUnder (marks : List Mark) : List TypeExpr → Except DefinitionError (List Shape)
  | [] => .ok []
  | t :: rest =>
    if t.isNull then shapesUnder marks rest
    else do return (← t.shapeUnder marks) :: (← shapesUnder marks rest)

end

/-- The wire shape of a type. -/
def shape (t : TypeExpr) : Except DefinitionError Shape := t.shapeUnder []

end TypeExpr

end EditorProtocol
