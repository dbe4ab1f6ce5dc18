import EditorProtocol.Codec.Violation
import EditorProtocol.Shape.Overlap
import EditorProtocol.Value.Order

/-!
What can go wrong between a value and a shape. A mismatch names the shape that was expected, the
value that was found, the way to it and the cause. Besides mismatches there are faults that no shape
accounts for: a model without a usable shape, an integer too large for a float, an attribute that a
value lacks, a bound on a value that has no order, values that cannot be compared, and bytes that
are no text.
-/

namespace EditorProtocol

/-- Why a value does not have its shape. -/
inductive Reason where
  | expectedKind (kind : PrimitiveKind)
  | belowMinimum
  | aboveMaximum
  | expectedCode (kind : PrimitiveKind)
  | unknownCode
  | expectedArray
  | expectedSequence
  | expectedObject
  | expectedInstance (model : String)
  | missingField (wire : String)
  | unexpectedNull
  | notJson (kind : String)
  | strangeKey (key : Value)
  | noAlternative (failures : List (Shape × Reason))
  | ambiguous (matched : List Shape)
  | broken (violations : List Violation)
  | bothReplies
  | neitherReply (result : Reason)
  | responseNotObject
  | notOneOutcome
  | other (text : String)
deriving Repr

namespace Reason

mutual

def message : Reason → String
  | .expectedKind kind => "expected " ++ kind.name
  | .belowMinimum => "integer below minimum"
  | .aboveMaximum => "integer above maximum"
  | .expectedCode kind => "expected " ++ kind.name ++ " code"
  | .unknownCode => "value outside of the enumeration"
  | .expectedArray => "expected an array"
  | .expectedSequence => "expected a sequence"
  | .expectedObject => "expected an object"
  | .expectedInstance model => "expected " ++ model ++ " instance"
  | .missingField wire => "missing required field '" ++ wire ++ "'"
  | .unexpectedNull => "null in a non-nullable field"
  | .notJson kind => kind ++ " is not a JSON value"
  | .strangeKey key => "non-string object key " ++ key.render
  | .noAlternative failures =>
    "no union alternative matches (" ++ "; ".intercalate (messages failures) ++ ")"
  | .ambiguous matched =>
    "ambiguous value matches " ++ ", ".intercalate (matched.map Shape.describe)
  | .broken violations => "; ".intercalate (violations.map Violation.message)
  | .bothReplies => "reply matches both the result and the error shape"
  | .neitherReply result =>
    "reply matches neither the result nor the error shape (" ++ result.message ++ ")"
  | .responseNotObject => "response is not an object"
  | .notOneOutcome => "response must carry exactly one of 'result' and 'error'"
  | .other text => text

def messages : List (Shape × Reason) → List String
  | [] => []
  | (s, r) :: rest => (s.describe ++ ": " ++ r.message) :: messages rest

end

end Reason

/-- A value that does not have the expected shape, at the end of a path from a whole value,
perhaps in a message of a method. -/
structure Mismatch where
  expected : Shape
  actual : Value
  reason : Reason
  path : List Segment
  method : Option String
deriving Repr

namespace Mismatch

/-- A mismatch of a whole value. -/
def of (expected : Shape) (actual : Value) (reason : Reason) : Mismatch :=
  ⟨expected, actual, reason, [], none⟩

/-- The mismatch seen from an enclosing value. -/
def under (segments : List Segment) (m : Mismatch) : Mismatch :=
  { m with path := segments ++ m.path }

def forMethod (method : String) (m : Mismatch) : Mismatch := { m with method := some method }

def message (m : Mismatch) : String :=
  let method := (m.method.map (· ++ ": ")).getD ""
  method ++ m.reason.message ++ " at $" ++ String.join (m.path.map Segment.render) ++
    ": expected " ++ m.expected.describe ++ ", got " ++ m.actual.abbreviated .report

end Mismatch

inductive Fault where
  | mismatch (m : Mismatch)
  | definition (e : DefinitionError)
  | overflow
  | noAttribute (model name : String)
  /-- A bound was set for a value that cannot be compared with it. -/
  | unbounded (bound : String) (v : Value)
  | incomparable (left right : String)
  | notUtf8 (byte : UInt8) (place : Nat)
deriving Repr

namespace Fault

def message : Fault → String
  | .mismatch m => m.message
  | .definition e => e.message
  | .overflow => "int too large to convert to float"
  | .noAttribute model name =>
    "'" ++ model ++ "' object has no attribute '" ++ name ++ "'"
  | .unbounded bound v =>
    "Unable to apply constraint '" ++ bound ++ "' to supplied value " ++ v.plain
  | .incomparable left right =>
    "'>' not supported between instances of '" ++ left ++ "' and '" ++ right ++ "'"
  | .notUtf8 byte place =>
    "'utf-8' codec can't decode byte 0x" ++ String.ofList (Text.hex 2 byte.toNat) ++
      " in position " ++ toString place ++ ": invalid utf-8"

/-- Whether the fault is one that the contract accounts for. -/
def isOwn : Fault → Bool
  | .mismatch _ => true
  | .definition _ => true
  | _ => false

/-- The fault seen from an enclosing value; only a mismatch has a path. -/
def under (segment : Segment) : Fault → Fault
  | .mismatch m => .mismatch (m.under [segment])
  | f => f

def forMethod (method : String) : Fault → Fault
  | .mismatch m => .mismatch (m.forMethod method)
  | f => f

end Fault

/-- The characters of a text; a value of another kind is not written in any. -/
def Value.characters (v : Value) : Except Fault (List Char) :=
  match v.text? with
  | some s => .ok s.toList
  | none => .error (.noAttribute v.kindName "encode")

/-- A result of which a part of an enclosing value is the cause. -/
def underSegment {α : Type} (segment : Segment) (r : Except Fault α) : Except Fault α :=
  r.mapError (Fault.under segment)

/-- The mismatch of a whole value, as a result. -/
def refuse {α : Type} (expected : Shape) (actual : Value) (reason : Reason) : Except Fault α :=
  .error (.mismatch (.of expected actual reason))

end EditorProtocol
