import EditorProtocol.Value.Basic

/-!
Equality of values. It looks through the kind of a number and through enumeration members, ignores
the order of entries, and compares records by model and attribute values. Not-a-number differs from
every number; only where two values share their parts is it equal to itself. Dictionaries hold one
entry for equal keys.
-/

namespace EditorProtocol.Value

/-- A value that counts as a number. -/
inductive Numeral where
  | int (n : Int)
  | float (x : Double)

def numeral? : Value → Option Numeral
  | .bool b => some (.int (if b then 1 else 0))
  | .int n => some (.int n)
  | .float x => some (.float x)
  | .member ⟨_, .integer, _, .int n⟩ => some (.int n)
  | _ => none

def Numeral.compare? : Numeral → Numeral → Option Ordering
  | .int a, .int b => some (compare a b)
  | .float a, .int b => a.compareInt b
  | .int a, .float b => (b.compareInt a).map Ordering.swap
  | .float a, .float b => a.compare? b

mutual

/-- Whether two values are equal. Where they may share their parts, a part that is not-a-number is
equal to itself. -/
def agrees (shared : Bool) : Value → Value → Bool
  | .null, .null => true
  | .bytes a, .bytes b => a == b
  | .list xs, .list ys => agreesAll shared xs ys
  | .tuple xs, .tuple ys => agreesAll shared xs ys
  | .set xs, .set ys => xs.length == ys.length && agreesMembers shared xs ys
  | .object es, .object fs => es.length == fs.length && agreesEntries shared es fs
  | .table es, .table fs => es.length == fs.length && agreesRows shared es fs
  | .record m ss, .record n ts => m == n && ss.length == ts.length && agreesSlots shared ss ts
  | v, w =>
    match v.text?, w.text?, v.numeral?, w.numeral? with
    | some s, some t, _, _ => s == t
    | _, _, some a, some b => a.compare? b == some .eq || (shared && sameNaN a b)
    | _, _, _, _ =>
      match v, w with
      | .member a, .member b => a == b
      | _, _ => false
where
  sameNaN : Numeral → Numeral → Bool
    | .float a, .float b => a.isNaN && b.isNaN
    | _, _ => false

def agreesAll (shared : Bool) : List Value → List Value → Bool
  | [], [] => true
  | x :: xs, y :: ys => x.agrees shared y && agreesAll shared xs ys
  | _, _ => false

def agreesMembers (shared : Bool) : List Value → List Value → Bool
  | [], _ => true
  | x :: xs, ys => ys.any (fun y => x.agrees shared y) && agreesMembers shared xs ys

def agreesEntry (shared : Bool) : String × Value → List (String × Value) → Bool
  | (k, v), fs =>
    match lookup fs k with
    | some w => v.agrees shared w
    | none => false

def agreesEntries (shared : Bool) : List (String × Value) → List (String × Value) → Bool
  | [], _ => true
  | e :: es, fs => agreesEntry shared e fs && agreesEntries shared es fs

def agreesRow (shared : Bool) : Value × Value → List (Value × Value) → Bool
  | (k, v), fs => fs.any fun f => k.agrees shared f.1 && v.agrees shared f.2

def agreesRows (shared : Bool) : List (Value × Value) → List (Value × Value) → Bool
  | [], _ => true
  | e :: es, fs => agreesRow shared e fs && agreesRows shared es fs

def agreesSlot (shared : Bool) : Slot Value → List (Slot Value) → Bool
  | ⟨name, v, _⟩, ts =>
    match attribute? ts name with
    | some w => v.agrees shared w
    | none => false

def agreesSlots (shared : Bool) : List (Slot Value) → List (Slot Value) → Bool
  | [], _ => true
  | s :: ss, ts => agreesSlot shared s ts && agreesSlots shared ss ts

end

/-- Equality of values that may share their parts. -/
def same (v w : Value) : Bool := v.agrees true w

/-- Equality of two values that are not parts of others: not-a-number differs from itself. -/
def equals (v w : Value) : Bool :=
  match v with
  | .float x => !x.isNaN && v.same w
  | _ => v.same w

mutual

/-- The kind of the first part of a value that may change later. A value with such a part can be
neither a key nor a member of a set. -/
def changing? : Value → Option String
  | .list _ => some "list"
  | .set _ => some "set"
  | .object _ => some "dict"
  | .table _ => some "dict"
  | .tuple xs => changingAny? xs
  | .record model slots =>
    if model.kind = .changing then some model.name else changingSlot? slots
  | _ => none

def changingAny? : List Value → Option String
  | [] => none
  | x :: xs => (changing? x).or (changingAny? xs)

def changingSlot? : List (Slot Value) → Option String
  | [] => none
  | s :: ss => (changing? s.value).or (changingSlot? ss)

end

/-- A dictionary from its entries; a repeated key keeps its place and takes the later value. -/
def insertRow : List (Value × Value) → Value → Value → List (Value × Value)
  | [], k, v => [(k, v)]
  | (k', v') :: rest, k, v =>
    if k'.agrees false k then (k', v) :: rest else (k', v') :: insertRow rest k v

/-- An object if all keys are texts, otherwise a table. -/
def ofRows (rows : List (Value × Value)) : Value :=
  let distinct := rows.foldl (fun acc r => insertRow acc r.1 r.2) []
  let texts := distinct.filterMap fun r =>
    match r.1 with
    | .text s => some (s, r.2)
    | _ => none
  if texts.length = distinct.length then .object texts else .table distinct

/-- An entry added to an object, or put in the place of an older one. -/
def insertEntry : List (String × Value) → String → Value → List (String × Value)
  | [], k, v => [(k, v)]
  | (k', v') :: rest, k, v =>
    if k' = k then (k', v) :: rest else (k', v') :: insertEntry rest k v

def ofEntries (entries : List (String × Value)) : Value :=
  .object (entries.foldl (fun acc e => insertEntry acc e.1 e.2) [])

end EditorProtocol.Value
