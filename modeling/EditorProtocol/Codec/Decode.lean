import EditorProtocol.Codec.Scalar
import EditorProtocol.Codec.Validation

/-!
Decoding: the typed value that a wire value stands for. A wire value that matches several
alternatives of a union decodes to the first of them, and a warning is left behind, also when the
alternative it was met in loses in the end; strict decoding refuses such a value instead.
-/

namespace EditorProtocol

/-- The alternatives that a wire value matched, of which the first was used. -/
structure Warning where
  matched : List Shape
deriving Repr

def Warning.message (w : Warning) : String :=
  let names := w.matched.map Shape.describe
  "Value matches multiple alternatives (" ++ ", ".intercalate names ++ "), using " ++
    names.headD ""

/-- A result, or an error, with the warnings left behind on the way to it. -/
structure Traced (ε α : Type) where
  warnings : List Warning
  outcome : Except ε α

namespace Traced

def of {ε α : Type} (r : Except ε α) : Traced ε α := ⟨[], r⟩

def bind {ε α β : Type} (x : Traced ε α) (f : α → Traced ε β) : Traced ε β :=
  match x.outcome with
  | .error e => ⟨x.warnings, .error e⟩
  | .ok a => ⟨x.warnings ++ (f a).warnings, (f a).outcome⟩

instance {ε : Type} : Monad (Traced ε) where
  pure a := ⟨[], .ok a⟩
  bind := bind

def mapError {ε δ α : Type} (f : ε → δ) (x : Traced ε α) : Traced δ α :=
  ⟨x.warnings, x.outcome.mapError f⟩

/-- The result seen from an enclosing value. -/
def under {α : Type} (segment : Segment) (x : Traced Fault α) : Traced Fault α :=
  ⟨x.warnings, underSegment segment x.outcome⟩

/-- A mismatch turned into a result; other faults remain. -/
def attempt {α : Type} (x : Traced Fault α) : Traced Fault (Except Mismatch α) :=
  match x.outcome with
  | .ok a => ⟨x.warnings, .ok (.ok a)⟩
  | .error (.mismatch m) => ⟨x.warnings, .ok (.error m)⟩
  | .error f => ⟨x.warnings, .error f⟩

end Traced

/-- The alternatives that matched, and why the others did not. -/
def splitTries : List (Shape × Except Mismatch Value) →
    List (Shape × Value) × List (Shape × Reason)
  | [] => ([], [])
  | (s, r) :: rest =>
    let (matched, failed) := splitTries rest
    match r with
    | .ok v => ((s, v) :: matched, failed)
    | .error m => (matched, (s, m.reason) :: failed)

/-- The value of a union, all of whose alternatives were tried. -/
def chooseAlternative (exact : Bool) (w : Value) (union : Shape)
    (tries : List (Shape × Except Mismatch Value)) : Traced Fault Value :=
  match splitTries tries with
  | ([], failed) => .of (refuse union w (.noAlternative failed))
  | ([(_, v)], _) => pure v
  | ((s, v) :: more, _) =>
    let shapes := s :: more.map (·.1)
    if exact then .of (refuse union w (.ambiguous shapes)) else ⟨[⟨shapes⟩], .ok v⟩

/-- The record of a model with decoded values, if they keep the rules of the model. -/
def Model.assemble (F : Family) (m : Model) (w : Value) (values : List (String × Value)) :
    Except Fault Value :=
  match m.make F values with
  | .ok v => .ok v
  | .error (.violations broken) => refuse (.record m.ref) w (.broken broken)
  | .error (.fault f) => .error f

mutual

/-- The typed value that a wire value of a shape stands for. -/
def decode (F : Family) (exact : Bool) (w : Value) (s : Shape) : Traced Fault Value :=
  match s with
  | .primitive p => .of (p.accept w)
  | .enumeration e => .of (e.decode w)
  | .any => .of (do checkJson w; return w)
  | .nullable inner => if w.isNull then pure .null else decode F exact w inner
  | .sequence element =>
    match w with
    | .list xs => do return .list (← decodeItems F exact 0 xs element)
    | w => .of (refuse (.sequence element) w .expectedArray)
  | .union alternatives => do
    chooseAlternative exact w (.union alternatives) (← tryAlternatives F exact w alternatives)
  | .record ref =>
    if !w.isObject then .of (refuse (.record ref) w .expectedObject)
    else
      match F.find? ref with
      | none => pure (.record ref [])
      | some m =>
        match m.fields.mapM (·.field) with
        | .error e => .of (.error (.definition e))
        | .ok fields => do
          let values ← decodeFields F exact w ref fields
          .of (m.assemble F w values)
termination_by (sizeOf w, 1, sizeOf s)
decreasing_by
  · exact Prod.Lex.right _ (Prod.Lex.right _ (by simp +arith))
  · exact Prod.Lex.left _ _ (by simp +arith)
  · exact Prod.Lex.right _ (Prod.Lex.right _ (by simp +arith))
  · exact Prod.Lex.right _ (Prod.Lex.left _ _ (by decide))

/-- The items of an array from an index on. -/
def decodeItems (F : Family) (exact : Bool) (i : Nat) (xs : List Value) (element : Shape) :
    Traced Fault (List Value) :=
  match xs with
  | [] => pure []
  | x :: rest => do
    let v ← (decode F exact x element).under (.index i)
    let vs ← decodeItems F exact (i + 1) rest element
    return v :: vs
termination_by (sizeOf xs, 0, 0)
decreasing_by
  · exact Prod.Lex.left _ _ (by simp +arith)
  · exact Prod.Lex.left _ _ (by simp +arith)

/-- What a wire value decodes to under each alternative. -/
def tryAlternatives (F : Family) (exact : Bool) (w : Value) (alternatives : List Shape) :
    Traced Fault (List (Shape × Except Mismatch Value)) :=
  match alternatives with
  | [] => pure []
  | s :: rest => do
    let r ← (decode F exact w s).attempt
    let rs ← tryAlternatives F exact w rest
    return (s, r) :: rs
termination_by (sizeOf w, 1, sizeOf alternatives)
decreasing_by
  · exact Prod.Lex.right _ (Prod.Lex.right _ (by simp +arith))
  · exact Prod.Lex.right _ (Prod.Lex.right _ (by simp +arith))

/-- The fields of an object that are present, by attribute name. On an optional field that is not
nullable, null stands for absence. -/
def decodeFields (F : Family) (exact : Bool) (w : Value) (ref : ModelRef) (fields : List Field) :
    Traced Fault (List (String × Value)) :=
  match fields with
  | [] => pure []
  | f :: rest =>
    match _h : w.at? f.wire with
    | none =>
      if f.optional then decodeFields F exact w ref rest
      else .of (refuse (.record ref) w (.missingField f.wire))
    | some item =>
      if item.isNull && !f.nullable then
        if f.optional then decodeFields F exact w ref rest
        else .of (underSegment (.key f.wire) (refuse f.shape item .unexpectedNull))
      else do
        let v ← (decode F exact item f.shape).under (.key f.wire)
        let vs ← decodeFields F exact w ref rest
        return (f.name, v) :: vs
termination_by (sizeOf w, 0, sizeOf fields)
decreasing_by
  · exact Prod.Lex.right _ (Prod.Lex.right _ (by simp +arith))
  · exact Prod.Lex.right _ (Prod.Lex.right _ (by simp +arith))
  · exact Prod.Lex.left _ _ (Value.sizeOf_lt_of_at? _h)
  · exact Prod.Lex.right _ (Prod.Lex.right _ (by simp +arith))

end

/-- Whether a wire value has a shape, with exactly one matching alternative in every union. -/
def isMatch (F : Family) (w : Value) (s : Shape) : Except Fault Bool :=
  match (decode F true w s).outcome with
  | .ok _ => .ok true
  | .error (.mismatch _) => .ok false
  | .error f => .error f

end EditorProtocol
