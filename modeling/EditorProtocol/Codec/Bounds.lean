import EditorProtocol.Codec.Mismatch

/-!
Bounds that types put on their values. Of several bounds of one kind on a number the last one
counts, bounds of different kinds all do. A bound on a value of any other kind compares the value
as it is, and it is a fault of the type if the value has no order.
-/

namespace EditorProtocol

/-- Why a value is not taken: it breaks rules, or there is a fault that no rule accounts for. -/
inductive Rejection where
  | violations (vs : List Violation)
  | fault (f : Fault)
deriving Repr

namespace Rejection

/-- The rejection seen from an enclosing value. -/
def under (segment : Segment) : Rejection → Rejection
  | .violations vs => .violations (vs.map fun v => { v with location := segment :: v.location })
  | r => r

/-- A rule that a whole value breaks, as a result. -/
def broken {α : Type} (v : Value) (b : Breach) : Except Rejection α :=
  .error (.violations [⟨[], b, v⟩])

end Rejection

/-- One of the four kinds of bounds. -/
inductive BoundKind where
  | above
  | atLeast
  | below
  | atMost
deriving DecidableEq, Repr

namespace BoundKind

/-- The short name of the kind. -/
def name : BoundKind → String
  | above => "gt"
  | atLeast => "ge"
  | below => "lt"
  | atMost => "le"

/-- The bound of the kind that a mark sets. -/
def bound? : BoundKind → Mark → Option Int
  | above, .bounds _ n _ _ => n
  | atLeast, .bounds n _ _ _ => n
  | below, .bounds _ _ _ n => n
  | atMost, .bounds _ _ n _ => n
  | _, _ => none

/-- Whether a value that stands to the bound in a certain way is within it. Not-a-number is within
no bound. -/
def admits : BoundKind → Option Ordering → Bool
  | above, o => o == some .gt
  | atLeast, o => o == some .gt || o == some .eq
  | below, o => o == some .lt
  | atMost, o => o == some .lt || o == some .eq

def breach : BoundKind → Int → Breach
  | above, n => .belowOrEqual n
  | atLeast, n => .below n
  | below, n => .aboveOrEqual n
  | atMost, n => .above n

end BoundKind

namespace Mark

/-- The first bound that a number breaks, which stands to every bound as a function says. -/
def breach? (marks : List Mark) (compare : Int → Option Ordering) : Option Breach :=
  [BoundKind.atMost, .below, .atLeast, .above].findSome? fun kind =>
    match (marks.filterMap kind.bound?).getLast? with
    | some n => if kind.admits (compare n) then none else some (kind.breach n)
    | none => none

/-- Compares a value of any kind with a bound. -/
def checkBound (v : Value) (kind : BoundKind) (n : Int) : Except Rejection Unit :=
  match v.compare (.int n) with
  | .error _ => .error (.fault (.unbounded kind.name v))
  | .ok o => if kind.admits o then .ok () else Rejection.broken v (kind.breach n)

/-- Compares a value of any kind with the bounds of marks, one after the other. -/
def check (marks : List Mark) (v : Value) : Except Rejection Unit :=
  marks.forM fun m =>
    [BoundKind.above, .atLeast, .below, .atMost].forM fun kind =>
      match kind.bound? m with
      | some n => checkBound v kind n
      | none => .ok ()

end Mark

end EditorProtocol
