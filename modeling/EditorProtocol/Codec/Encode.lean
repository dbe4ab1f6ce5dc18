import EditorProtocol.Codec.Decode
import EditorProtocol.Codec.Dump

/-!
Encoding: the wire value of a typed value. Fields left out stay out, an explicit null is written
where it is a value of its own, and a record is checked against the rules of its model, since it
may have been made without validation. The first alternative of a union that takes a value wins.
-/

namespace EditorProtocol

/-- The wire object of a record, if it keeps the rules of the model. -/
def Model.seal (F : Family) (m : Model) (v : Value) (entries : List (String × Value)) :
    Except Fault Value :=
  match m.validate F (.object entries) with
  | .ok _ => .ok (.object entries)
  | .error (.violations broken) => refuse (.record m.ref) v (.broken broken)
  | .error (.fault f) => .error f

mutual

/-- The wire value of a typed value of a shape. -/
def encode (F : Family) (v : Value) (s : Shape) : Except Fault Value :=
  match s with
  | .primitive p => p.accept v.unwrapped
  | .enumeration e => e.accept v.unwrapped
  | .nullable inner => if v.isNull then .ok .null else encode F v inner
  | .sequence element =>
    match v with
    | .list xs => do return .list (← encodeItems F 0 xs element)
    | .tuple xs => do return .list (← encodeItems F 0 xs element)
    | v => refuse (.sequence element) v .expectedSequence
  | .union alternatives => do
    match ← encodeFirst F v alternatives with
    | .ok w => return w
    | .error failures => refuse (.union alternatives) v (.noAlternative failures)
  | .record ref =>
    match v with
    | .record own slots =>
      match F.find? ref with
      | none => .ok (.object [])
      | some m =>
        match m.fields.mapM (·.field) with
        | .error e => .error (.definition e)
        | .ok fields => do
          let entries ← encodeFields F ref own slots (.record own slots) fields
          m.seal F (.record own slots) entries
    | v => refuse (.record ref) v (.expectedInstance ref.name)
  | .any =>
    match v with
    | .record own slots => dump F .any (.record own slots)
    | v => do checkJson v; return v
termination_by (sizeOf v, 1, sizeOf s)
decreasing_by
  · exact Prod.Lex.right _ (Prod.Lex.right _ (by simp +arith))
  · exact Prod.Lex.left _ _ (by simp +arith)
  · exact Prod.Lex.left _ _ (by simp +arith)
  · exact Prod.Lex.right _ (Prod.Lex.right _ (by simp +arith))
  · exact Prod.Lex.left _ _ (by simp +arith)

/-- The items of a sequence from an index on. -/
def encodeItems (F : Family) (i : Nat) (xs : List Value) (element : Shape) :
    Except Fault (List Value) :=
  match xs with
  | [] => .ok []
  | x :: rest => do
    let w ← underSegment (.index i) (encode F x element)
    let ws ← encodeItems F (i + 1) rest element
    return w :: ws
termination_by (sizeOf xs, 0, 0)
decreasing_by
  · exact Prod.Lex.left _ _ (by simp +arith)
  · exact Prod.Lex.left _ _ (by simp +arith)

/-- What the first alternative that takes a value makes of it, or why none does. -/
def encodeFirst (F : Family) (v : Value) (alternatives : List Shape) :
    Except Fault (Except (List (Shape × Reason)) Value) :=
  match alternatives with
  | [] => .ok (.error [])
  | s :: rest =>
    match encode F v s with
    | .ok w => .ok (.ok w)
    | .error (.mismatch m) => do
      match ← encodeFirst F v rest with
      | .ok w => return .ok w
      | .error failures => return .error ((s, m.reason) :: failures)
    | .error f => .error f
termination_by (sizeOf v, 1, sizeOf alternatives)
decreasing_by
  · exact Prod.Lex.right _ (Prod.Lex.right _ (by simp +arith))
  · exact Prod.Lex.right _ (Prod.Lex.right _ (by simp +arith))

/-- The entries of a record's wire object. The record may be of another model than the shape; a
required field that its own model does not declare is missing. -/
def encodeFields (F : Family) (ref own : ModelRef) (slots : List (Slot Value)) (whole : Value)
    (fields : List Field) : Except Fault (List (String × Value)) :=
  match fields with
  | [] => .ok []
  | f :: rest =>
    if f.optional && !Value.isGiven slots f.name then
      encodeFields F ref own slots whole rest
    else if !(F.find? own).any (·.declares f.name) then
      refuse (.record ref) whole (.missingField f.wire)
    else
      match _h : Value.slot? slots f.name with
      | none => .error (.noAttribute own.name f.name)
      | some slot =>
        if slot.value.isNull then
          if f.nullable then do
            let entries ← encodeFields F ref own slots whole rest
            return (f.wire, .null) :: entries
          else if f.optional then encodeFields F ref own slots whole rest
          else underSegment (.key f.wire) (refuse f.shape slot.value .unexpectedNull)
        else do
          let w ← underSegment (.key f.wire) (encode F slot.value f.shape)
          let entries ← encodeFields F ref own slots whole rest
          return (f.wire, w) :: entries
termination_by (sizeOf slots, 0, sizeOf fields)
decreasing_by
  · exact Prod.Lex.right _ (Prod.Lex.right _ (by simp +arith))
  · exact Prod.Lex.right _ (Prod.Lex.right _ (by simp +arith))
  · exact Prod.Lex.right _ (Prod.Lex.right _ (by simp +arith))
  · exact Prod.Lex.left _ _ (Value.sizeOf_lt_of_slot? _h)
  · exact Prod.Lex.right _ (Prod.Lex.right _ (by simp +arith))

end

end EditorProtocol
