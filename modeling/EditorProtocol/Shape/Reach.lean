import EditorProtocol.Shape.Family

/-!
Everything a shape is made of: the shape itself, then depth first the shapes of record fields,
alternatives, elements and inner shapes, each shape once. The walk ends because every model of the
family is opened at most once and everything else gets smaller.
-/

namespace EditorProtocol

/-- Shapes in the order in which a walk met them, and what stopped it short. -/
structure Walk where
  shapes : List Shape
  failure : Option DefinitionError

/-- The walk with a shape met before it. -/
def Walk.after (w : Walk) (s : Shape) : Walk := ⟨s :: w.shapes, w.failure⟩

namespace Shape

/-- The models among a list of shapes. -/
def refs : List Shape → List ModelRef
  | [] => []
  | .record ref :: rest => ref :: refs rest
  | _ :: rest => refs rest

/-- The parts of a shape that is no record. -/
def innerParts : Shape → List Shape
  | .union alternatives => alternatives
  | .sequence element => [element]
  | .nullable inner => [inner]
  | _ => []

/-- The sizes of a list of shapes, taken together. -/
noncomputable def totalSize : List Shape → Nat
  | [] => 0
  | s :: rest => sizeOf s + totalSize rest

theorem totalSize_append (xs ys : List Shape) :
    totalSize (xs ++ ys) = totalSize xs + totalSize ys := by
  induction xs with
  | nil => simp [totalSize]
  | cons x xs ih =>
    simp only [List.cons_append, totalSize, ih]
    omega

theorem totalSize_lt (xs : List Shape) : totalSize xs < sizeOf xs := by
  induction xs with
  | nil => simp [totalSize]
  | cons x xs ih =>
    simp only [totalSize, List.cons.sizeOf_spec]
    omega

theorem sizeOf_pos (s : Shape) : 0 < sizeOf s := by
  cases s <;> simp only [primitive.sizeOf_spec, enumeration.sizeOf_spec, record.sizeOf_spec,
    union.sizeOf_spec, sequence.sizeOf_spec, nullable.sizeOf_spec, any.sizeOf_spec] <;>
    first | exact Nat.add_pos_left Nat.one_pos _ | exact Nat.one_pos

theorem totalSize_lt_cons (s : Shape) (rest : List Shape) :
    totalSize rest < totalSize (s :: rest) := by
  have := s.sizeOf_pos
  simp only [totalSize]
  omega

/-- The parts of a shape are smaller than the shape, also taken together. -/
theorem totalSize_innerParts_lt (s : Shape) : totalSize s.innerParts < sizeOf s := by
  cases s with
  | union alternatives =>
    have := totalSize_lt alternatives
    simp only [innerParts, union.sizeOf_spec]
    omega
  | sequence element => simp [innerParts, totalSize]
  | nullable inner => simp [innerParts, totalSize]
  | _ => exact sizeOf_pos _

end Shape

namespace Family

theorem unvisited_refs_le (F : Family) (s : Shape) (seen : List Shape) :
    F.unvisited (Shape.refs (s :: seen)) ≤ F.unvisited (Shape.refs seen) := by
  cases s <;> simp only [Shape.refs] <;> first | exact unvisited_le _ _ | exact Nat.le_refl _

/-- A measure of two parts gets smaller if its second part does and its first does not grow. -/
theorem lex_of_le {a b x y : Nat} (h : a ≤ b) (hxy : x < y) :
    Prod.Lex (· < ·) (· < ·) (a, x) (b, y) := by
  rcases Nat.lt_or_eq_of_le h with hl | he
  · exact Prod.Lex.left _ _ hl
  · rw [he]
    exact Prod.Lex.right _ hxy

/-- The walk from a stack of shapes that leaves out what was seen. -/
def walkFrom (F : Family) (seen stack : List Shape) : Walk :=
  match stack with
  | [] => ⟨[], none⟩
  | .record ref :: rest =>
    if _hv : ref ∈ Shape.refs seen then F.walkFrom seen rest
    else
      match _h : F.find? ref with
      | none => (F.walkFrom (.record ref :: seen) rest).after (.record ref)
      | some m =>
        match m.fields.mapM (·.field) with
        | .error e => ⟨[.record ref], some e⟩
        | .ok fields =>
          (F.walkFrom (.record ref :: seen) (fields.map (·.shape) ++ rest)).after (.record ref)
  | s :: rest =>
    if s.untyped ∈ seen then F.walkFrom seen rest
    else (F.walkFrom (s.untyped :: seen) (s.innerParts ++ rest)).after s
termination_by (F.unvisited (Shape.refs seen), Shape.totalSize stack)
decreasing_by
  · exact Prod.Lex.right _ (Shape.totalSize_lt_cons _ _)
  · exact lex_of_le (unvisited_refs_le F _ _) (Shape.totalSize_lt_cons _ _)
  · exact Prod.Lex.left _ _ (unvisited_lt _h _hv)
  · exact Prod.Lex.right _ (Shape.totalSize_lt_cons _ _)
  · have := s.totalSize_innerParts_lt
    refine lex_of_le (unvisited_refs_le F _ _) ?_
    simp only [Shape.totalSize_append, Shape.totalSize]
    omega

/-- The walk over everything a shape is made of. -/
def walk (F : Family) (s : Shape) : Walk := F.walkFrom [] [s]

/-- Everything a shape is made of. -/
def reachable (F : Family) (s : Shape) : Except DefinitionError (List Shape) :=
  let w := F.walk s
  match w.failure with
  | some e => .error e
  | none => .ok w.shapes

end Family

end EditorProtocol
