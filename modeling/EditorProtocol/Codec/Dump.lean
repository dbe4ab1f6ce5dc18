import EditorProtocol.Codec.Record

/-!
The wire form of values in a place of any shape. A record gives the explicit attributes that the
model of its place declares, numbers that are not finite give null, and bytes give the text that
they are.
-/

namespace EditorProtocol

namespace TypeExpr

/-- The type without marks and names, and without null beside it. -/
def core : TypeExpr → TypeExpr
  | .marked t _ => t.core
  | .named _ t => t.core
  | .union [t, .null] _ => t.core
  | .union [.null, t] _ => t.core
  | t => t

/-- The model of the records of a type, if it is of one model only. -/
def model? (t : TypeExpr) : Option ModelRef :=
  match t.core with
  | .model ref => some ref
  | _ => none

/-- The type of the items of a sequence; any type where nothing is known about them. -/
def element (t : TypeExpr) : TypeExpr :=
  match t.core with
  | .sequence u => u
  | _ => .any

end TypeExpr

/-- The text that bytes are. -/
def Value.textOfBytes (bs : List UInt8) : Except Fault Value :=
  match readUtf8.readAll "utf-8" 0 bs with
  | .ok cs => .ok (.text (String.ofList cs))
  | .error (.undecodable _ place wrong _) => .error (.notUtf8 (wrong.headD 0) place)
  | .error _ => .ok (.text "")

/-- The text that a key is written as. -/
def Value.keyText : Value → String
  | .bool true => "true"
  | .bool false => "false"
  | .member m => (ofScalar m.code).plain
  | v => v.plain

mutual

/-- The wire form of a value in a place of a type. -/
def dump (F : Family) (t : TypeExpr) : Value → Except Fault Value
  | .float x => .ok (if x.isFinite then .float x else .null)
  | .bytes bs => Value.textOfBytes bs
  | .list xs => do return .list (← dumpAll F t.element xs)
  | .tuple xs => do return .list (← dumpAll F .any xs)
  | .set xs => do return .list (← dumpAll F .any xs)
  | .object es => do return .object (← dumpEntries F es)
  | .table es => do return .object (← dumpRows F es)
  | .member m => .ok (.ofScalar m.code)
  | .record own slots => do
    let fields := ((F.find? (t.model?.getD own)).map (·.fields)).getD []
    return .object (← dumpSlots F fields slots)
  | v => .ok v

def dumpAll (F : Family) (t : TypeExpr) : List Value → Except Fault (List Value)
  | [] => .ok []
  | x :: xs => do return (← dump F t x) :: (← dumpAll F t xs)

def dumpEntries (F : Family) : List (String × Value) → Except Fault (List (String × Value))
  | [] => .ok []
  | (k, v) :: es => do return (k, ← dump F .any v) :: (← dumpEntries F es)

def dumpRows (F : Family) : List (Value × Value) → Except Fault (List (String × Value))
  | [] => .ok []
  | (k, v) :: es => do return (k.keyText, ← dump F .any v) :: (← dumpRows F es)

def dumpSlots (F : Family) (fields : List FieldDecl) :
    List (Slot Value) → Except Fault (List (String × Value))
  | [] => .ok []
  | s :: ss =>
    match s.isGiven, fields.find? (·.name == s.name) with
    | true, some d => do return (d.wire, ← dump F d.type s.value) :: (← dumpSlots F fields ss)
    | _, _ => dumpSlots F fields ss

end

end EditorProtocol
