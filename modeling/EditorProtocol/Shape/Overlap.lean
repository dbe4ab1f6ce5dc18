import EditorProtocol.Shape.Finite

/-!
Which two shapes may share a wire value made of declared fields only. Two records are apart if
they share a key, required on either side, whose shapes are apart, or if each requires a key the
other does not declare. A pair of shapes met again on the way, in the same order, is taken to
overlap, which leaves exactly the pairs apart that are so for a reason found in finitely many steps.
-/

namespace EditorProtocol

namespace PrimitiveKind

/-- Whether values of two kinds may coincide: integers are floats. -/
def compatible : PrimitiveKind → PrimitiveKind → Bool
  | .integer, .float => true
  | .float, .integer => true
  | a, b => a == b

end PrimitiveKind

/-- Whether an integer lies within the bounds of a primitive. -/
def Primitive.admits (p : Primitive) (n : Int) : Bool :=
  (p.minimum.all fun low => decide (low ≤ n)) && p.maximum.all fun high => decide (n ≤ high)

namespace Codes

/-- Whether two lists of codes share one. -/
def overlap : Codes → Codes → Bool
  | .integers ms, .integers ns => ms.any ns.contains
  | .texts ss, .texts ts => ss.any ts.contains
  | _, _ => false

/-- Whether some code may be a value of a primitive. -/
def overlapPrimitive (c : Codes) (p : Primitive) : Bool :=
  p.kind.compatible c.kind &&
    match c with
    | .texts _ => true
    | .integers ns => ns.any p.admits

end Codes

namespace Shape

/-- The pairs of models among pairs of shapes. -/
def refPairs : List (Shape × Shape) → List (ModelRef × ModelRef)
  | [] => []
  | (.record r, .record s) :: rest => (r, s) :: refPairs rest
  | _ :: rest => refPairs rest

theorem mem_refPairs {r s : ModelRef} {pairs : List (Shape × Shape)} :
    (r, s) ∈ refPairs pairs ↔ (.record r, .record s) ∈ pairs := by
  induction pairs with
  | nil => exact ⟨nofun, nofun⟩
  | cons p rest ih =>
    obtain ⟨a, b⟩ := p
    cases a <;> cases b <;> simp [refPairs, ih]

/-- Pairs of shapes and one more before them. What the members of enumerations are does not tell
pairs apart. -/
def addPair (a b : Shape) (pairs : List (Shape × Shape)) : List (Shape × Shape) :=
  (a.untyped, b.untyped) :: pairs

@[simp]
theorem mem_addPair {a b : Shape} {p : Shape × Shape} {pairs : List (Shape × Shape)} :
    p ∈ a.addPair b pairs ↔ p = (a.untyped, b.untyped) ∨ p ∈ pairs := List.mem_cons

end Shape

namespace Family

/-- The pairs of models that a list of pairs leaves out. -/
def unvisitedPairs (F : Family) (seen : List (ModelRef × ModelRef)) : Nat :=
  (F.models.flatMap fun m => F.models.map fun n => (m.ref, n.ref)).countP
    fun p => !seen.contains p

theorem unvisitedPairs_lt {F : Family} {a b : ModelRef} {m n : Model}
    {seen : List (ModelRef × ModelRef)} (ha : F.find? a = some m) (hb : F.find? b = some n)
    (hv : (a, b) ∉ seen) : F.unvisitedPairs ((a, b) :: seen) < F.unvisitedPairs seen := by
  obtain ⟨hm, rfl⟩ := mem_of_find? ha
  obtain ⟨hn, rfl⟩ := mem_of_find? hb
  refine countP_lt (x := (m.ref, n.ref)) ?_ ?_ ?_ ?_
  · exact List.mem_flatMap.2 ⟨m, hm, List.mem_map.2 ⟨n, hn, rfl⟩⟩
  · intro y hy
    simp_all
  · simp
  · simp [hv]

theorem unvisitedPairs_le (F : Family) (a b : Shape) (seen : List (Shape × Shape)) :
    F.unvisitedPairs (Shape.refPairs (a.addPair b seen)) ≤
      F.unvisitedPairs (Shape.refPairs seen) := by
  have hsub : ∀ p ∈ Shape.refPairs seen, p ∈ Shape.refPairs (a.addPair b seen) := by
    rintro ⟨r, s⟩ hp
    exact Shape.mem_refPairs.2 (List.mem_cons_of_mem _ (Shape.mem_refPairs.1 hp))
  refine List.countP_mono_left fun p _ hp => ?_
  simp only [Bool.not_eq_true', List.contains_eq_mem, decide_eq_false_iff_not] at hp ⊢
  exact mt (hsub p) hp

/-- Two models that are met for the first time leave fewer pairs of models. -/
theorem unvisitedPairs_addPair_lt {F : Family} {r s : ModelRef} {m n : Model}
    {seen : List (Shape × Shape)} (hr : F.find? r = some m) (hs : F.find? s = some n)
    (hv : ((Shape.record r).untyped, (Shape.record s).untyped) ∉ seen) :
    F.unvisitedPairs (Shape.refPairs ((Shape.record r).addPair (.record s) seen)) <
      F.unvisitedPairs (Shape.refPairs seen) :=
  unvisitedPairs_lt hr hs (mt Shape.mem_refPairs.1 hv)

mutual

/-- Whether two shapes may share a value, pairs already met being taken to do so. -/
def overlapFrom (F : Family) (seen : List (Shape × Shape)) (a b : Shape) :
    Except DefinitionError Bool :=
  if (a.untyped, b.untyped) ∈ seen then .ok true
  else
    match _ha : a, _hb : b with
    | .any, _ => .ok true
    | _, .any => .ok true
    | .nullable _, .nullable _ => .ok true
    | .nullable inner, b =>
      if b = .null then .ok true
      else F.overlapFrom ((Shape.nullable inner).addPair b seen) inner b
    | a, .nullable inner =>
      if a = .null then .ok true
      else F.overlapFrom (a.addPair (.nullable inner) seen) inner a
    | a, .union alternatives =>
      F.anyOverlap (a.addPair (.union alternatives) seen) alternatives a
    | .union alternatives, b =>
      F.anyOverlap ((Shape.union alternatives).addPair b seen) alternatives b
    | .sequence _, .sequence _ => .ok true
    | .record r, .record s =>
      if r = s then .ok true
      else
        match _h : F.find? r, _k : F.find? s with
        | some m, some n =>
          match m.fields.mapM (·.field), n.fields.mapM (·.field) with
          | .error e, _ => .error e
          | _, .error e => .error e
          | .ok fs, .ok gs => do
            let (apart, exclusive) ← F.distinguish ((Shape.record r).addPair (.record s) seen) fs gs
            let (apart', exclusive') ←
              F.distinguish ((Shape.record r).addPair (.record s) seen) gs fs
            return !(apart || apart') && !(exclusive && exclusive')
        | _, _ => .ok true
    | .primitive p, .primitive q => .ok (p.kind.compatible q.kind)
    | .primitive p, .enumeration e => .ok (e.codes.overlapPrimitive p)
    | .enumeration e, .primitive p => .ok (e.codes.overlapPrimitive p)
    | .enumeration e, .enumeration f => .ok (e.codes.overlap f.codes)
    | _, _ => .ok false
termination_by (F.unvisitedPairs (Shape.refPairs seen), sizeOf a + sizeOf b)
decreasing_by
  all_goals first
    | exact Prod.Lex.left _ _ (unvisitedPairs_addPair_lt _h _k (_ha ▸ _hb ▸ ‹_ ∉ seen›))
    | exact lex_of_le (unvisitedPairs_le F _ _ _) (by simp +arith)

/-- Whether some alternative may share a value with a shape. -/
def anyOverlap (F : Family) (seen : List (Shape × Shape)) (alternatives : List Shape)
    (b : Shape) : Except DefinitionError Bool :=
  match alternatives with
  | [] => .ok false
  | a :: rest => do
    if ← F.overlapFrom seen a b then return true
    F.anyOverlap seen rest b
termination_by (F.unvisitedPairs (Shape.refPairs seen), sizeOf alternatives + sizeOf b)
decreasing_by
  · exact Prod.Lex.right _ (by simp +arith)
  · exact Prod.Lex.right _ (by simp +arith)

/-- Whether a shared field sets two records apart, and whether the first record requires a field
that the second does not declare. -/
def distinguish (F : Family) (seen : List (Shape × Shape)) (fs gs : List Field) :
    Except DefinitionError (Bool × Bool) :=
  match fs with
  | [] => .ok (false, false)
  | f :: rest =>
    match _h : Field.find? gs f.wire with
    | none => do
      let (apart, exclusive) ← F.distinguish seen rest gs
      return (apart, exclusive || !f.optional)
    | some g =>
      if f.optional && g.optional then F.distinguish seen rest gs
      else do
        if ← F.overlapFrom seen f.shape g.shape then F.distinguish seen rest gs
        else return (true, false)
termination_by (F.unvisitedPairs (Shape.refPairs seen), sizeOf fs + sizeOf gs)
decreasing_by
  · exact Prod.Lex.right _ (by simp +arith)
  · exact Prod.Lex.right _ (by simp +arith)
  · have := f.sizeOf_shape_lt
    have := g.sizeOf_shape_lt
    have := Field.sizeOf_lt_of_find? _h
    exact Prod.Lex.right _ (by simp only [List.cons.sizeOf_spec]; omega)
  · exact Prod.Lex.right _ (by simp +arith)

end

/-- Whether some value made of declared fields only may match both shapes. -/
def mayOverlap (F : Family) (a b : Shape) : Except DefinitionError Bool := F.overlapFrom [] a b

/-- Whether the shape may overlap one of a list. -/
def overlapsAny (F : Family) (a : Shape) : List Shape → Except DefinitionError Bool
  | [] => .ok false
  | b :: rest => do
    if ← F.mayOverlap a b then return true
    F.overlapsAny a rest

/-- Whether two alternatives of a list may overlap. -/
def isAmbiguous (F : Family) : List Shape → Except DefinitionError Bool
  | [] => .ok false
  | a :: rest => do
    if ← F.overlapsAny a rest then return true
    F.isAmbiguous rest

/-- The unions of a list with alternatives that may overlap. -/
def ambiguousAmong (F : Family) : List Shape → Except DefinitionError (List Shape)
  | [] => .ok []
  | .union alternatives :: rest => do
    let ambiguous ← F.isAmbiguous alternatives
    let others ← F.ambiguousAmong rest
    return if ambiguous then .union alternatives :: others else others
  | _ :: rest => F.ambiguousAmong rest

/-- The unions in a shape whose alternatives may overlap. Records are open: a value with the
declared fields of two alternatives at once is not accounted for. -/
def ambiguousUnions (F : Family) (s : Shape) : Except DefinitionError (List Shape) := do
  let w := F.walk s
  let unions ← F.ambiguousAmong w.shapes
  match w.failure with
  | some e => .error e
  | none => .ok unions

end Family

end EditorProtocol
