import EditorProtocol.Codec.Fitting
import EditorProtocol.Shape.Family

/-!
Values as values of a type expression, and dictionaries as records of a model. A dictionary gives
the value of a field under its key or, where that is missing, under its name; the rules that fields
break are collected, and only a record without such is asked whether its start comes before its
end. Of the alternatives of a union, the one that a value fits most closely takes it.
-/

namespace EditorProtocol

/-- Whether a model is another one or has it among its ancestors. -/
def Family.isKind (F : Family) (ref other : ModelRef) : Bool :=
  climb F.models.length ref
where
  climb : Nat → ModelRef → Bool
    | 0, ref => ref == other
    | steps + 1, ref =>
      ref == other || (F.find? ref).any fun m => m.parents.any (climb steps)

/-- What a dictionary gives for a field, and under which key. -/
def FieldDecl.given? (d : FieldDecl) (byName : Bool) (w : Value) : Option (String × Value) :=
  match w.at? d.wire with
  | some v => some (d.wire, v)
  | none =>
    if byName then
      match w.at? d.name with
      | some v => some (d.name, v)
      | none => none
    else none

theorem FieldDecl.sizeOf_lt_of_given? {d : FieldDecl} {byName : Bool} {w v : Value} {key : String}
    (h : d.given? byName w = some (key, v)) : sizeOf v < sizeOf w := by
  unfold FieldDecl.given? at h
  split at h
  · cases h
    exact Value.sizeOf_lt_of_at? ‹_›
  · split at h
    · split at h
      · cases h
        exact Value.sizeOf_lt_of_at? ‹_›
      · cases h
    · cases h

/-- The line and the character of a position, be it a record or an object on the wire. -/
def Value.position? (v : Value) : Option Position :=
  let coordinate (name : String) : Option Int :=
    match v with
    | .record _ slots => (attribute? slots name).bind Value.integer?
    | v => (v.at? name).bind Value.integer?
  match coordinate "line", coordinate "character" with
  | some line, some character => some ⟨line, character⟩
  | _, _ => none

/-- Refuses a record whose start comes after its end. Values that have no order cannot be asked,
and the order of values that are no positions cannot be told. -/
def checkOrder (w : Value) (slots : List (Slot Value)) : Except Rejection Unit :=
  match Value.attribute? slots "start", Value.attribute? slots "end" with
  | some start, some stop =>
    match start.compare stop with
    | .error (.kinds left right) => .error (.fault (.incomparable left right))
    | .error (.incomplete model name) => .error (.fault (.noAttribute model name))
    | .ok (some .gt) =>
      match start.position?, stop.position? with
      | some p, some q => Rejection.broken w (.reversed ⟨p, q⟩)
      | _, _ => .error (.fault (.noAttribute start.kindName "line"))
    | .ok _ => .ok ()
  | _, _ => .ok ()

/-- The record of fields that were all taken, or the rules that some of them break. -/
def Model.complete (m : Model) (w : Value) (vs : List Violation) (slots : List (Slot Value)) :
    Except Rejection Value := do
  if !vs.isEmpty then throw (.violations vs)
  if m.ordered then checkOrder w slots
  return .record m.ref slots

/-- A result, or the rules that keep it from being one; faults remain. -/
def Rejection.collect {α : Type} (r : Except Rejection α) :
    Except Rejection (Except (List Violation) α) :=
  match r with
  | .ok a => .ok (.ok a)
  | .error (.violations vs) => .ok (.error vs)
  | .error (.fault f) => .error (.fault f)

mutual

/-- A value as a value of a type that carries marks from outside. -/
def TypeExpr.fit (F : Family) (marks : List Mark) (t : TypeExpr) (v : Value) :
    Except Rejection Fitted :=
  match t with
  | .marked u own => u.fit F (own ++ marks) v
  | .named _ u => u.fit F marks v
  | .integer => v.fitInteger marks
  | .float => v.fitFloat marks
  | .union members _ =>
    if members.any (·.isNull) && v.isNull then .ok ⟨.null, .exact⟩
    else if (members.filter (!·.isNull)).length == 1 then fitFirst F marks none [] members v
    else do bounded marks (← fitFirst F [] none [] members v)
  | .any => do bounded marks ⟨v, .loose⟩
  | .null => do bounded marks (← v.fitNull)
  | .boolean => do bounded marks (← v.fitBoolean)
  | .text => do bounded marks (← v.fitText)
  | .enumeration type => do bounded marks (← v.fitMember type)
  | .literal codes => do bounded marks (← v.fitCode codes)
  | .list =>
    match v with
    | .list xs => do bounded marks ⟨.list xs, .exact⟩
    | .tuple xs => do bounded marks ⟨.list xs, .loose⟩
    | v => Rejection.broken v .notList
  | .sequence u =>
    match v with
    | .list xs => do
      let (fit, ys) ← fitItems F 0 u xs
      bounded marks ⟨.list ys, fit⟩
    | .tuple xs => do
      let (_, ys) ← fitItems F 0 u xs
      bounded marks ⟨.list ys, .loose⟩
    | v => Rejection.broken v .notList
  | .model ref =>
    match v with
    | .record own slots =>
      if F.isKind own ref then do bounded marks ⟨.record own slots, .exact⟩
      else Rejection.broken v (.notRecord ref.name)
    | v =>
      if v.isObject then
        match F.find? ref with
        | none => .ok ⟨.record ref [], .loose⟩
        | some m => do
          let (vs, slots) ← fitFields F m.byName v m.fields
          bounded marks ⟨← m.complete v vs slots, .loose⟩
      else Rejection.broken v (.notRecord ref.name)
  | .foreign _ | .mapping _ _ | .shaped _ => .ok ⟨v, .exact⟩
termination_by (sizeOf v, 1, sizeOf t)
decreasing_by
  all_goals simp_wf
  all_goals first
    | (apply Prod.Lex.right; apply Prod.Lex.right; omega)
    | (apply Prod.Lex.left; omega)
    | (apply Prod.Lex.right; apply Prod.Lex.left; omega)
where
  /-- What was taken, if it is within the bounds of the marks. -/
  bounded (marks : List Mark) (taken : Fitted) : Except Rejection Fitted := do
    Mark.check marks taken.value
    return taken

/-- What the members of a union make of a value that is not null: the first exact one wins, else
the best. -/
def fitFirst (F : Family) (marks : List Mark) (best : Option Fitted) (failed : List Violation)
    (members : List TypeExpr) (v : Value) : Except Rejection Fitted :=
  match members with
  | [] =>
    match best with
    | some taken => .ok taken
    | none => .error (.violations failed)
  | t :: rest =>
    if t.isNull then fitFirst F marks best failed rest v
    else do
      match ← Rejection.collect (t.fit F marks v) with
      | .error vs => fitFirst F marks best (failed ++ vs) rest v
      | .ok taken =>
        if taken.fit = .exact then return taken
        else fitFirst F marks (some ((best.map (·.better taken)).getD taken)) failed rest v
termination_by (sizeOf v, 1, sizeOf members)
decreasing_by
  all_goals simp_wf
  all_goals (apply Prod.Lex.right; apply Prod.Lex.right; omega)

/-- The items of a sequence from an index on. -/
def fitItems (F : Family) (i : Nat) (t : TypeExpr) (xs : List Value) :
    Except Rejection (Fit × List Value) :=
  match xs with
  | [] => .ok (.exact, [])
  | x :: rest => do
    let first ← Rejection.collect ((t.fit F [] x).mapError (.under (.index i)))
    match first, ← Rejection.collect (fitItems F (i + 1) t rest) with
    | .ok y, .ok (fit, ys) => return (Fitted.worst y.fit fit, y.value :: ys)
    | .error vs, .ok _ => throw (.violations vs)
    | .ok _, .error vs => throw (.violations vs)
    | .error vs, .error ws => throw (.violations (vs ++ ws))
termination_by (sizeOf xs, 0, 0)
decreasing_by
  all_goals simp_wf
  all_goals (apply Prod.Lex.left; omega)

/-- The fields of a record from a dictionary, and the rules that some of them break. -/
def fitFields (F : Family) (byName : Bool) (w : Value) (fields : List FieldDecl) :
    Except Rejection (List Violation × List (Slot Value)) :=
  match fields with
  | [] => .ok ([], [])
  | d :: rest => do
    match _h : d.given? byName w with
    | some (key, v) =>
      let first ← Rejection.collect ((d.type.fit F [] v).mapError (.under (.key key)))
      let (vs, slots) ← fitFields F byName w rest
      match first with
      | .ok taken => return (vs, ⟨d.name, taken.value, .given⟩ :: slots)
      | .error ws => return (ws ++ vs, slots)
    | none =>
      let (vs, slots) ← fitFields F byName w rest
      match d.fallback with
      | some v => return (vs, ⟨d.name, v, .filled⟩ :: slots)
      | none => return (⟨[.key d.wire], .missing, w⟩ :: vs, slots)
termination_by (sizeOf w, 0, sizeOf fields)
decreasing_by
  all_goals simp_wf
  all_goals first
    | (apply Prod.Lex.right; apply Prod.Lex.right; omega)
    | (apply Prod.Lex.left; exact FieldDecl.sizeOf_lt_of_given? _h)

end

/-- The record of a model that a dictionary gives. -/
def Model.validate (F : Family) (m : Model) (w : Value) : Except Rejection Value := do
  if !w.isObject then Rejection.broken w (.notRecord m.ref.name)
  let (vs, slots) ← fitFields F m.byName w m.fields
  m.complete w vs slots

/-- The validating constructor. -/
def Model.make (F : Family) (m : Model) (values : List (String × Value)) :
    Except Rejection Value := m.validate F (.object values)

end EditorProtocol
