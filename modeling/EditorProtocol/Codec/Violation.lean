import EditorProtocol.Given.Breach
import EditorProtocol.Value.Render

/-!
The rules of a model that a value breaks, each with the way to the part that breaks it.
-/

namespace EditorProtocol

/-- A step from a value to one of its parts: the key of an object or the index of an array. -/
inductive Segment where
  | key (name : String)
  | index (i : Int)
deriving DecidableEq, Repr

namespace Segment

def render : Segment → String
  | .key name => "." ++ name
  | .index i => "[" ++ toString i ++ "]"

/-- The segment without a sign of what it is. -/
def plain : Segment → String
  | .key name => name
  | .index i => toString i

end Segment

/-- A rule of a model that a part of a value breaks; the whole value is meant by the empty way. -/
structure Violation where
  location : List Segment
  breach : Breach
  input : Value
deriving Repr

namespace Violation

def message (v : Violation) : String := v.breach.message

/-- The full form of a value, the middle of a long one left out. -/
def inputText (v : Value) : String :=
  let cs := v.render.toList
  if cs.length ≤ 50 then String.ofList cs
  else String.ofList (cs.take 25 ++ "...".toList ++ cs.drop (cs.length - 24))

/-- The account of a violation: where it is, which rule is broken, and by what. -/
def account (v : Violation) : String :=
  let place := ".".intercalate (v.location.map Segment.plain)
  let input := "input_value=" ++ inputText v.input ++ ", input_type=" ++ v.input.kindName
  (if v.location.isEmpty then "" else place ++ "\n") ++ "  " ++ v.message ++ " [type=" ++
    v.breach.kindName ++ ", " ++ input ++ "]"

/-- How many rules of a model are broken. -/
def heading (model : String) (vs : List Violation) : String :=
  toString vs.length ++ " validation error" ++ (if vs.length = 1 then "" else "s") ++ " for " ++
    model

/-- The account of all violations of the rules of a model. -/
def report (model : String) (vs : List Violation) : String :=
  "\n".intercalate (heading model vs :: vs.map account)

end Violation

end EditorProtocol
