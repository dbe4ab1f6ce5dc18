import EditorProtocol.Number.Numeral
import EditorProtocol.Shape.Basic

/-!
Type expressions, in which payload models are declared. A type that carries marks is still the type
that it is without them; unions in a union are merged.
-/

namespace EditorProtocol

/-- An enumeration type with its members in order; a later name of an earlier code is an alias. -/
structure EnumType where
  name : String
  base : EnumBase
  entries : List (String × Scalar)
deriving BEq, Repr, Inhabited

namespace EnumType

/-- Whether two codes are equal; booleans and floats count as the numbers they are. -/
def sameCode (a b : Scalar) : Bool := (Value.ofScalar a).same (Value.ofScalar b)

/-- The entries without aliases. -/
def distinct : List (String × Scalar) → List (String × Scalar)
  | [] => []
  | e :: rest => e :: (distinct rest).filter fun f => !sameCode e.2 f.2

/-- The members in order, each under its first name. -/
def members (t : EnumType) : List EnumMember :=
  (distinct t.entries).map fun e => ⟨t.name, t.base, e.1, e.2⟩

/-- The member with a code. -/
def memberOf? (t : EnumType) (code : Scalar) : Option EnumMember :=
  t.members.find? fun m => sameCode m.code code

/-- The member that a name or an alias stands for. -/
def member? (t : EnumType) (name : String) : Option EnumMember :=
  match t.entries.find? fun e => e.1 == name with
  | some e => t.memberOf? e.2
  | none => none

end EnumType

/-- Why an enumeration cannot have a member. -/
inductive MemberError where
  /-- A text enumeration has texts only. -/
  | notText (code : Value)
  | noNumeral (text : String)
  | longNumeral (digits : Nat)
  | notNumber (code : Value)
  | infinite
  | undefined
  /-- An earlier member has the same name, and a code of its own. -/
  | taken (name : String) (code : Value)
  /-- Names that no member has. -/
  | reserved (names : List String)
  /-- A name between single underscores. -/
  | enclosed (name : String)
deriving Repr

def MemberError.message : MemberError → String
  | .notText code => code.render ++ " is not a string"
  | .noNumeral text =>
    "invalid literal for int() with base 10: " ++ ((Text.quoted text).take 200).toString
  | .longNumeral digits => Numeral.excessText (some digits)
  | .notNumber code =>
    "int() argument must be a string, a bytes-like object or a real number, not '" ++
      code.kindName ++ "'"
  | .infinite => "cannot convert float infinity to integer"
  | .undefined => "cannot convert float NaN to integer"
  | .taken name code => Text.quoted name ++ " already defined as " ++ code.render
  | .reserved names =>
    "invalid enum member name(s) " ++ ",".intercalate (names.map Text.quoted)
  | .enclosed name =>
    "_sunder_ names, such as " ++ Text.quoted name ++ ", are reserved for future Enum use"

/-- The number that a text writes as the code of a member. -/
def EnumBase.numeral (s : String) : Except MemberError Int :=
  let text := Numeral.trimmed s.toList
  let (digits, rest) := Numeral.grouped 10 (Numeral.sign text).2
  if rest.isEmpty && decide (Numeral.maxDigits < digits.length) then
    .error (.longNumeral digits.length)
  else (Numeral.integer? text).elim (.error (.noNumeral s)) .ok

/-- The code that a member of an enumeration gets: one of numbers cuts off fractions and reads
texts, one of texts takes nothing else. Where anything is a code, what is made of parts counts as
none. -/
def EnumBase.code (base : EnumBase) (code : Value) : Except MemberError Scalar :=
  match base, code with
  | .plain, code => .ok code.code.scalar
  | .text, .text s => .ok (.text s)
  | .text, code => .error (.notText code)
  | .integer, .int n => .ok (.int n)
  | .integer, .bool b => .ok (.int (if b then 1 else 0))
  | .integer, .float x =>
    (x.truncated?.map Scalar.int).elim (.error (if x.isNaN then .undefined else .infinite)) .ok
  | .integer, .text s => return .int (← numeral s)
  | .integer, code => .error (.notNumber code)

namespace EnumType

/-- Whether a name begins and ends with some underscores, no more and no less. -/
def isBetween (underscores : Nat) (name : List Char) : Bool :=
  let u := List.replicate underscores '_'
  let inner := (name.drop underscores).take (name.length - 2 * underscores)
  !inner.isEmpty && name == u ++ inner ++ u && inner.head? != some '_' &&
    inner.getLast? != some '_'

/-- Whether a name belongs to the enumeration itself, not to a member. -/
def isOwn (enumeration name : String) : Bool :=
  let start := ("_" ++ enumeration ++ "__").toList
  let rest := name.toList.drop start.length
  isBetween 2 name.toList ||
    (name.toList.take start.length == start && !rest.isEmpty &&
      name.toList.reverse.take 2 != ['_', '_'])

/-- The entries whose names are names of members, each name once. -/
def checkNames (enumeration : String) :
    (earlier rest : List (String × Value)) → Except MemberError (List (String × Value))
  | earlier, [] => .ok earlier
  | earlier, e :: rest =>
    if isOwn enumeration e.1 then checkNames enumeration earlier rest
    else if isBetween 1 e.1.toList then .error (.enclosed e.1)
    else
      match earlier.find? (·.1 == e.1) with
      | some (name, code) => .error (.taken name code)
      | none => checkNames enumeration (earlier ++ [e]) rest

/-- An enumeration with the codes that its base makes of the given ones. -/
def declare (name : String) (base : EnumBase) (entries : List (String × Value)) :
    Except MemberError EnumType := do
  let entries ← checkNames name [] entries
  let reserved := ["", "mro"].filter fun n => entries.any (·.1 == n)
  if !reserved.isEmpty then throw (.reserved reserved)
  return ⟨name, base, ← entries.mapM fun e => return (e.1, ← base.code e.2)⟩

end EnumType

/-- A mark on a type: bounds of an integer, or the wish to keep an explicit null. -/
inductive Mark where
  | bounds (atLeast above atMost below : Option Int)
  | keepNull
  | note
deriving DecidableEq, Repr, Inhabited

inductive TypeExpr where
  | any
  | null
  | boolean
  | integer
  | float
  | text
  | list
  /-- A type that no shape stands for, by its printed name. -/
  | foreign (name : String)
  | mapping (key value : TypeExpr)
  | enumeration (type : EnumType)
  | model (ref : ModelRef)
  /-- A union of types; it may have been written with bars between its members. -/
  | union (members : List TypeExpr) (barred : Bool)
  | sequence (element : TypeExpr)
  | literal (codes : List Code)
  | marked (type : TypeExpr) (marks : List Mark)
  | named (name : String) (type : TypeExpr)
  | shaped (shape : Shape)
deriving Repr, Inhabited

/-- The type of the members of an enumeration. -/
def EnumType.type (t : EnumType) : TypeExpr := .enumeration t

namespace TypeExpr

mutual

/-- Whether two types are written in the same way. -/
def beq : TypeExpr → TypeExpr → Bool
  | .any, .any | .null, .null | .boolean, .boolean | .integer, .integer | .float, .float
  | .text, .text | .list, .list => true
  | .foreign m, .foreign n => m == n
  | .mapping k v, .mapping l w => k.beq l && v.beq w
  | .enumeration e, .enumeration f => e == f
  | .model r, .model q => r == q
  | .union ts b, .union us c => beqAll ts us && b == c
  | .sequence t, .sequence u => t.beq u
  | .literal cs, .literal ds => cs == ds
  | .marked t ms, .marked u ns => t.beq u && ms == ns
  | .named m t, .named n u => m == n && t.beq u
  | .shaped s, .shaped t => s == t
  | _, _ => false

def beqAll : List TypeExpr → List TypeExpr → Bool
  | [], [] => true
  | t :: ts, u :: us => t.beq u && beqAll ts us
  | _, _ => false

end

instance : BEq TypeExpr := ⟨beq⟩

/-- The members of a union, a type that is no union being its only member. -/
def alternatives : TypeExpr → List TypeExpr
  | .union members _ => members
  | t => [t]

mutual

/-- Whether two types are equal; the order of the members of a union, or of the codes of a
literal, does not matter. -/
def same : TypeExpr → TypeExpr → Bool
  | .union ts _, .union us _ => allIn ts us && us.all fun u => isIn ts u
  | .literal cs, .literal ds => cs.all ds.contains && ds.all cs.contains
  | .sequence t, .sequence u => t.same u
  | .mapping k v, .mapping l w => k.same l && v.same w
  | .marked t ms, .marked u ns => t.same u && ms == ns
  | t, u => t == u

/-- Whether every type of a list is in another list. -/
def allIn : List TypeExpr → List TypeExpr → Bool
  | [], _ => true
  | t :: ts, us => us.any (fun u => t.same u) && allIn ts us

/-- Whether a type is in a list. -/
def isIn : List TypeExpr → TypeExpr → Bool
  | [], _ => false
  | t :: ts, u => t.same u || isIn ts u

end

/-- The first of equal types only. -/
def firsts : List TypeExpr → List TypeExpr
  | [] => []
  | t :: rest => t :: (firsts rest).filter fun u => !t.same u

/-- The union of types: unions in it are merged, equal members kept once, and a union of one
member is that member. -/
def unionOf (types : List TypeExpr) : TypeExpr :=
  match firsts (types.flatMap alternatives) with
  | [t] => t
  | ts => .union ts false

/-- Whether bars can be written between the type and another one. -/
def isBare : TypeExpr → Bool
  | .union _ barred => barred
  | .sequence _ | .mapping _ _ | .literal _ | .marked _ _ | .named _ _ | .shaped _ => false
  | _ => true

/-- The union of types that is written with bars where that can be done. -/
def barredUnionOf (types : List TypeExpr) : TypeExpr :=
  match unionOf types with
  | .union members _ => .union members (types.all isBare)
  | t => t

/-- The type or null. -/
def optional (t : TypeExpr) : TypeExpr := unionOf [t, .null]

/-- Marks added to a type after those it has. -/
def markedWith (t : TypeExpr) (marks : List Mark) : TypeExpr :=
  match t with
  | .marked u inner => .marked u (inner ++ marks)
  | u => .marked u marks

/-- The type or null, where an explicit null is kept apart from absence. -/
def nullable (t : TypeExpr) : TypeExpr := markedWith (optional t) [.keepNull]

/-- The type that admits the given codes. -/
def literalOf (codes : List Code) : TypeExpr := .literal codes.eraseDups

/-- The integers from zero. -/
def nonNegative : TypeExpr := .marked .integer [.bounds (some 0) none none none]

/-- The integers from one. -/
def positive : TypeExpr := .marked .integer [.bounds none (some 0) none none]

/-- The marks of a type itself. -/
def marks : TypeExpr → List Mark
  | .marked _ ms => ms
  | _ => []

def isNull : TypeExpr → Bool
  | .null => true
  | _ => false

end TypeExpr

end EditorProtocol
