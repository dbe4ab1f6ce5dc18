import EditorProtocol.Codec.Bounds
import EditorProtocol.Given.Scalar

/-!
Values without parts as values of a type. A value may be of the type itself, of a kind that counts
as the type, or only be read as a value of it.
-/

namespace EditorProtocol

/-- How closely a value fits a type. -/
inductive Fit where
  | loose
  | close
  | exact
deriving DecidableEq, Repr

def Fit.rank : Fit → Nat
  | loose => 0
  | close => 1
  | exact => 2

/-- What a value is as a value of a type, and how closely it fitted. -/
structure Fitted where
  value : Value
  fit : Fit
deriving Repr

namespace Fitted

/-- The better one of two; the first of two that fit as closely. -/
def better (a b : Fitted) : Fitted := if a.fit.rank < b.fit.rank then b else a

/-- The less close one of two fits. -/
def worst (a b : Fit) : Fit := if b.rank < a.rank then b else a

/-- What was read from a value. -/
def ofReading {α : Type} (v : Value) (read : Except Breach α) (make : α → Value) :
    Except Rejection Fitted :=
  match read with
  | .ok a => .ok ⟨make a, .loose⟩
  | .error b => Rejection.broken v b

end Fitted

namespace Value

def fitNull (v : Value) : Except Rejection Fitted :=
  if v.isNull then .ok ⟨v, .exact⟩ else Rejection.broken v .notNull

def fitBoolean : Value → Except Rejection Fitted
  | .bool b => .ok ⟨.bool b, .exact⟩
  | v => Fitted.ofReading v (Given.ofValue v).readFlag .bool

/-- A value as an integer within the bounds of marks. -/
def fitInteger (marks : List Mark) (v : Value) : Except Rejection Fitted := do
  let bounded (n : Int) (fit : Fit) : Except Rejection Fitted :=
    match Mark.breach? marks fun b => some (Ord.compare n b) with
    | some b => Rejection.broken v b
    | none => .ok ⟨.int n, fit⟩
  match v, v.integer? with
  | .int n, _ => bounded n .exact
  | _, some n => bounded n .close
  | v, none =>
    match (Given.ofValue v).readInteger with
    | .ok n => bounded n .loose
    | .error b => Rejection.broken v b

/-- A value as a float within the bounds of marks. -/
def fitFloat (marks : List Mark) (v : Value) : Except Rejection Fitted := do
  match (Given.ofValue v).readFloat with
  | .error b => Rejection.broken v b
  | .ok x =>
    match Mark.breach? marks x.compareInt with
    | some b => Rejection.broken v b
    | none =>
      match v, v.integer? with
      | .float _, _ => .ok ⟨.float x, .exact⟩
      | _, some _ => .ok ⟨.float x, .close⟩
      | _, none => .ok ⟨.float x, .loose⟩

/-- A value as a text; a member of any enumeration gives the text of its code. -/
def fitText (v : Value) : Except Rejection Fitted :=
  match v, v.text? with
  | .text s, _ => .ok ⟨.text s, .exact⟩
  | _, some s => .ok ⟨.text s, .close⟩
  | .member m, none => .ok ⟨.text (ofScalar m.code).plain, .loose⟩
  | v, none => Fitted.ofReading v (Given.ofValue v).readText .text

/-- A value as a member of an enumeration: the member itself, or the one of a code. -/
def fitMember (type : EnumType) (v : Value) : Except Rejection Fitted :=
  let known : Breach := .notMember (type.members.map (·.code.render))
  let member (code : Value) : Except Rejection Fitted :=
    match type.members.find? fun m => (ofScalar m.code).same code with
    | some m => .ok ⟨.member m, .loose⟩
    | none => Rejection.broken v known
  match v with
  | .member m =>
    if type.members.contains m then .ok ⟨.member m, .exact⟩ else byCode type.base known member
  | _ => byCode type.base known member
where
  /-- The member of the code that the value is read as. -/
  byCode (base : EnumBase) (known : Breach) (member : Value → Except Rejection Fitted) :
      Except Rejection Fitted :=
    match base with
    | .plain => member v
    | .text =>
      match fitText v with
      | .ok s => member s.value
      | .error _ => Rejection.broken v known
    | .integer =>
      match v.integer? with
      | some n =>
        if n < -9223372036854775808 ∨ 9223372036854775807 < n then Rejection.broken v .tooLarge
        else member (.int n)
      | none =>
        match (Given.ofValue v).readInteger with
        | .ok n => member (.int n)
        | .error _ => Rejection.broken v known

/-- A value as one of listed codes. A plain number or text is first looked for among plain codes,
any other value among members, of which the last one counts. -/
def fitCode (codes : List Code) (v : Value) : Except Rejection Fitted :=
  let equal (c : Code) : Bool := c.value.same v
  let alike (c : Code) : Bool :=
    match c, v with
    | .plain (.bool _), .bool _ => equal c
    | .plain (.int _), .int _ => equal c
    | .plain (.text _), .text _ => equal c
    | _, _ => false
  let isMember (c : Code) : Bool :=
    match c with
    | .member _ => equal c
    | .plain _ => false
  match ((codes.find? alike).or (codes.reverse.find? isMember)).or (codes.find? equal) with
  | some c => .ok ⟨c.value, .exact⟩
  | none => Rejection.broken v (.notLiteral (codes.map Code.render))

end Value

end EditorProtocol
