import EditorProtocol.Number.Double
import EditorProtocol.Number.Numeral

/-!
The values that travel through the contract. A wire value is built from null, booleans, integers,
floats, texts, arrays and objects; a typed value may also hold enumeration members and records,
and values of foreign origin tuples, sets, bytes and tables with keys of any kind.
-/

namespace EditorProtocol

/-- A value without parts. -/
inductive Scalar where
  | null
  | bool (b : Bool)
  | int (n : Int)
  | float (x : Double)
  | text (s : String)
deriving DecidableEq, Repr, Inhabited

/-- What a member of an enumeration is besides being a member. -/
inductive EnumBase where
  | plain
  | integer
  | text
deriving DecidableEq, Repr, Inhabited

/-- A member of an enumeration: it stands for its code on the wire. -/
structure EnumMember where
  enumeration : String
  base : EnumBase
  name : String
  code : Scalar
deriving DecidableEq, Repr, Inhabited

/-- What records have in common beside their attributes: that they may change later, or that they
stay as they were made, and as positions have an order too. -/
inductive RecordKind where
  | changing
  | constant
  | position
deriving DecidableEq, Repr, Inhabited

/-- A record model is known by its name and, among models of one name, by a serial number. -/
structure ModelRef where
  name : String
  serial : Nat
  kind : RecordKind
deriving DecidableEq, Repr, Inhabited

/-- The model of a name that no other model shares. -/
def ModelRef.named (name : String) : ModelRef := ⟨name, 0, .changing⟩

/-- The model with records of a kind. -/
def ModelRef.ofKind (ref : ModelRef) (kind : RecordKind) : ModelRef := { ref with kind }

/-- How a record came to the value of an attribute: the value was given, or filled in by default,
or put on a copy although the model declares no such attribute. -/
inductive Origin where
  | given
  | filled
  | stray
deriving BEq, DecidableEq, Repr, Inhabited

/-- An attribute of a record value. -/
structure Slot (α : Type) where
  name : String
  value : α
  origin : Origin
deriving BEq, DecidableEq, Repr, Inhabited

/-- Whether the value is shown where explicit values are. -/
def Slot.isGiven {α : Type} (s : Slot α) : Bool := s.origin == .given

/-- Whether the model declares the attribute. -/
def Slot.isDeclared {α : Type} (s : Slot α) : Bool := s.origin != .stray

inductive Value where
  | null
  | bool (b : Bool)
  | int (n : Int)
  | float (x : Double)
  | text (s : String)
  | bytes (bs : List UInt8)
  | list (xs : List Value)
  | tuple (xs : List Value)
  | set (xs : List Value)
  /-- A dictionary whose keys are all texts, in insertion order. -/
  | object (entries : List (String × Value))
  /-- A dictionary with a key of another kind, in insertion order. -/
  | table (entries : List (Value × Value))
  | member (m : EnumMember)
  | record (model : ModelRef) (slots : List (Slot Value))
deriving Repr, Inhabited

namespace Value

def ofScalar : Scalar → Value
  | .null => .null
  | .bool b => .bool b
  | .int n => .int n
  | .float x => .float x
  | .text s => .text s

def isNull : Value → Bool
  | .null => true
  | _ => false

/-- The name of the kind of a value. -/
def kindName : Value → String
  | .null => "NoneType"
  | .bool _ => "bool"
  | .int _ => "int"
  | .float _ => "float"
  | .text _ => "str"
  | .bytes _ => "bytes"
  | .list _ => "list"
  | .tuple _ => "tuple"
  | .set _ => "set"
  | .object _ => "dict"
  | .table _ => "dict"
  | .member m => m.enumeration
  | .record model _ => model.name

/-- How many characters, elements or entries a value has, if it is made of such. -/
def count? : Value → Option Nat
  | .text s => some s.length
  | .bytes bs => some bs.length
  | .list xs | .tuple xs | .set xs => some xs.length
  | .object es => some es.length
  | .table es => some es.length
  | _ => none

/-- The integer a value is: a boolean is none, a member of an integer enumeration is one. -/
def integer? : Value → Option Int
  | .int n => some n
  | .member ⟨_, .integer, _, .int n⟩ => some n
  | _ => none

/-- The text a value is; a member of a text enumeration is one. -/
def text? : Value → Option String
  | .text s => some s
  | .member ⟨_, .text, _, .text s⟩ => some s
  | _ => none

/-- A member of an enumeration gives way to its code, any other value stays. -/
def unwrapped : Value → Value
  | .member m => ofScalar m.code
  | v => v

/-- The entry of a list of pairs under a text key. -/
def lookupText : List (Value × Value) → String → Option Value
  | [], _ => none
  | (k, v) :: rest, key => if k.text? = some key then some v else lookupText rest key

/-- The entry of an object under a key. -/
def lookup : List (String × Value) → String → Option Value
  | [], _ => none
  | (k, v) :: rest, key => if k = key then some v else lookup rest key

/-- Whether a value is a dictionary. -/
def isObject : Value → Bool
  | .object _ => true
  | .table _ => true
  | _ => false

/-- The entry of a dictionary under a text key; other values have no entries. -/
def at? (v : Value) (key : String) : Option Value :=
  match v with
  | .object entries => lookup entries key
  | .table entries => lookupText entries key
  | _ => none

theorem sizeOf_lt_of_lookup {entries : List (String × Value)} {key : String} {v : Value}
    (h : lookup entries key = some v) : sizeOf v < sizeOf entries := by
  induction entries with
  | nil => simp [lookup] at h
  | cons p rest ih =>
    obtain ⟨k, w⟩ := p
    simp only [lookup] at h
    split at h
    · cases h
      simp only [List.cons.sizeOf_spec, Prod.mk.sizeOf_spec]
      omega
    · have := ih h
      simp only [List.cons.sizeOf_spec]
      omega

theorem sizeOf_lt_of_lookupText {entries : List (Value × Value)} {key : String} {v : Value}
    (h : lookupText entries key = some v) : sizeOf v < sizeOf entries := by
  induction entries with
  | nil => simp [lookupText] at h
  | cons p rest ih =>
    obtain ⟨k, w⟩ := p
    simp only [lookupText] at h
    split at h
    · cases h
      simp only [List.cons.sizeOf_spec, Prod.mk.sizeOf_spec]
      omega
    · have := ih h
      simp only [List.cons.sizeOf_spec]
      omega

/-- An entry is smaller than the dictionary that holds it. -/
theorem sizeOf_lt_of_at? {v w : Value} {key : String} (h : v.at? key = some w) :
    sizeOf w < sizeOf v := by
  cases v <;> simp only [at?] at h <;> try contradiction
  case object entries =>
    have := sizeOf_lt_of_lookup h
    simp only [object.sizeOf_spec]
    omega
  case table entries =>
    have := sizeOf_lt_of_lookupText h
    simp only [table.sizeOf_spec]
    omega

/-- The slot of a record under an attribute name. -/
def slot? : List (Slot Value) → String → Option (Slot Value)
  | [], _ => none
  | s :: rest, name => if s.name = name then some s else slot? rest name

theorem sizeOf_lt_of_slot? {slots : List (Slot Value)} {name : String} {s : Slot Value}
    (h : slot? slots name = some s) : sizeOf s.value < sizeOf slots := by
  induction slots with
  | nil => simp [slot?] at h
  | cons t rest ih =>
    simp only [slot?] at h
    split at h
    · cases h
      have : sizeOf s.value < sizeOf s := by
        cases s
        simp only [Slot.mk.sizeOf_spec]
        omega
      simp only [List.cons.sizeOf_spec]
      omega
    · have := ih h
      simp only [List.cons.sizeOf_spec]
      omega

/-- The value of a record's attribute, given or filled in. -/
def attribute? (slots : List (Slot Value)) (name : String) : Option Value :=
  (slot? slots name).map (·.value)

/-- Whether a record's attribute was given explicitly, declared or not. -/
def isGiven (slots : List (Slot Value)) (name : String) : Bool :=
  (slot? slots name).any (·.origin != .filled)

mutual

/-- Whether a value is a record, or a list or tuple with such a value in it. -/
def isTyped : Value → Bool
  | .record _ _ => true
  | .list xs => anyTyped xs
  | .tuple xs => anyTyped xs
  | _ => false

def anyTyped : List Value → Bool
  | [] => false
  | x :: xs => x.isTyped || anyTyped xs

end

mutual

/-- Whether some integer in a value has too many digits to be written. -/
def hasLongInteger : Value → Bool
  | .int n => Numeral.isTooLong n
  | .list xs => anyLongInteger xs
  | .tuple xs => anyLongInteger xs
  | .set xs => anyLongInteger xs
  | .object es => entriesLongInteger es
  | .table es => rowsLongInteger es
  | .record _ slots => slotsLongInteger slots
  | _ => false

def anyLongInteger : List Value → Bool
  | [] => false
  | x :: xs => x.hasLongInteger || anyLongInteger xs

def entriesLongInteger : List (String × Value) → Bool
  | [] => false
  | (_, v) :: es => v.hasLongInteger || entriesLongInteger es

def rowsLongInteger : List (Value × Value) → Bool
  | [] => false
  | (k, v) :: es => k.hasLongInteger || v.hasLongInteger || rowsLongInteger es

def slotsLongInteger : List (Slot Value) → Bool
  | [] => false
  | s :: ss => s.value.hasLongInteger || slotsLongInteger ss

end

end Value

end EditorProtocol
