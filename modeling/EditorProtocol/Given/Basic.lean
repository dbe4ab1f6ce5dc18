import EditorProtocol.Value.Basic

/-!
What is given where a value of some type is wanted: by a dictionary, a message or a configuration
file. Only the kinds that may stand for another kind are told apart.
-/

namespace EditorProtocol

/-- What is given for a value. All kinds that stand for nothing else are strange. -/
inductive Given where
  | bool (b : Bool)
  | int (n : Int)
  | float (x : Double)
  | text (s : String)
  | bytes (bs : List UInt8)
  | section (entries : List (String × Given))
  | strange
deriving Repr, Inhabited

namespace Given

/-- A code given for a value. -/
def ofScalar : Scalar → Given
  | .null => .strange
  | .bool b => .bool b
  | .int n => .int n
  | .float x => .float x
  | .text s => .text s

mutual

/-- What a value gives; an enumeration member gives its code. -/
def ofValue : Value → Given
  | .bool b => .bool b
  | .int n => .int n
  | .float x => .float x
  | .text s => .text s
  | .bytes bs => .bytes bs
  | .object es => .section (ofEntries es)
  | .member m => ofScalar m.code
  | _ => .strange

def ofEntries : List (String × Value) → List (String × Given)
  | [] => []
  | (name, v) :: rest => (name, ofValue v) :: ofEntries rest

end

end Given

end EditorProtocol
