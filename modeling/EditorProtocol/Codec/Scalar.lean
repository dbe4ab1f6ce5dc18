import EditorProtocol.Codec.Mismatch

/-!
The shapes without parts: primitives, enumeration codes and JSON values of any kind. A boolean is
no integer and an integer no boolean; an integer is also a float.
-/

namespace EditorProtocol

/-- The plain value that a value of a primitive shape stands for. -/
def Primitive.accept (p : Primitive) (v : Value) : Except Fault Value :=
  let refused {α : Type} (reason : Reason) : Except Fault α := refuse (.primitive p) v reason
  match p.kind with
  | .null => if v.isNull then .ok .null else refused (.expectedKind .null)
  | .string =>
    match v.text? with
    | some s => .ok (.text s)
    | none => refused (.expectedKind .string)
  | .boolean =>
    match v with
    | .bool b => .ok (.bool b)
    | _ => refused (.expectedKind .boolean)
  | .integer =>
    match v.integer? with
    | some n =>
      if p.minimum.any fun low => decide (n < low) then refused .belowMinimum
      else if p.maximum.any fun high => decide (high < n) then refused .aboveMaximum
      else .ok (.int n)
    | none => refused (.expectedKind .integer)
  | .float =>
    match v, v.integer? with
    | .float x, _ => .ok (.float x)
    | _, some n =>
      match Double.ofInt? n with
      | some x => .ok (.float x)
      | none => .error .overflow
    | _, none => refused (.expectedKind .float)

namespace Codes

/-- Whether a value is of the kind of the codes. -/
def isOfKind (codes : Codes) (v : Value) : Bool :=
  match codes with
  | .integers _ => v.integer?.isSome
  | .texts _ => v.text?.isSome

/-- Whether a value is one of the codes. -/
def admits (codes : Codes) (v : Value) : Bool :=
  match codes with
  | .integers ns => v.integer?.any ns.contains
  | .texts ss => v.text?.any ss.contains

end Codes

namespace EnumShape

/-- The value itself, if it is one of the codes. -/
def accept (e : EnumShape) (v : Value) : Except Fault Value :=
  if !e.codes.isOfKind v then refuse (.enumeration e) v (.expectedCode e.codes.kind)
  else if e.codes.admits v then .ok v
  else refuse (.enumeration e) v .unknownCode

/-- The member with the code of a value. -/
def memberOf? (e : EnumShape) (v : Value) : Option EnumMember :=
  e.members.find? fun m => (Value.ofScalar m.code).same v

/-- What a code decodes to: its member, or itself in an enumeration without members. -/
def decode (e : EnumShape) (v : Value) : Except Fault Value := do
  let code ← e.accept v
  return ((e.memberOf? code).map .member).getD code

end EnumShape

mutual

/-- Refuses a value with anything in it that JSON has no form for. -/
def checkJson : Value → Except Fault Unit
  | .null => .ok ()
  | .bool _ => .ok ()
  | .int _ => .ok ()
  | .float _ => .ok ()
  | .text _ => .ok ()
  | .member m =>
    if m.base = .plain then refuse .any (.member m) (.notJson m.enumeration) else .ok ()
  | .list xs => checkJsonItems 0 xs
  | .object es => checkJsonEntries es
  | .table es => checkJsonRows (.table es) es
  | v => refuse .any v (.notJson v.kindName)

def checkJsonItems (i : Nat) : List Value → Except Fault Unit
  | [] => .ok ()
  | x :: xs => do
    underSegment (.index i) (checkJson x)
    checkJsonItems (i + 1) xs

def checkJsonEntries : List (String × Value) → Except Fault Unit
  | [] => .ok ()
  | (k, v) :: es => do
    underSegment (.key k) (checkJson v)
    checkJsonEntries es

def checkJsonRows (whole : Value) : List (Value × Value) → Except Fault Unit
  | [] => .ok ()
  | (k, v) :: es => do
    match k.text? with
    | none => refuse .any whole (.strangeKey k)
    | some key => underSegment (.key key) (checkJson v)
    checkJsonRows whole es

end

end EditorProtocol
