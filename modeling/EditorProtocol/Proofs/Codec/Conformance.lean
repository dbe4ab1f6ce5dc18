import EditorProtocol.Proofs.Shape.Field

/-!
Typed values that conform to a shape, and when two typed values are the same by their fields. A
conforming record is of exactly the model of its place, has every attribute that the model declares
and keeps the rules of the model; what else was put on it does not count. On an optional field that
is not nullable, an explicit null counts as an absent value; on a nullable field the two are told
apart.
-/

namespace EditorProtocol

/-! ### Positions -/

/-- A record is at a position: it is of a model of positions and has the line and the character. -/
def Value.IsAt (v : Value) (p : Position) : Prop :=
  ∃ ref slots, v = .record ref slots ∧ ref.kind = .position ∧
    attribute? slots "line" = some (.int p.line) ∧
    attribute? slots "character" = some (.int p.character)

/-- The start of a record does not come after its end, where both are positions. -/
def Slot.InOrder (slots : List (Slot Value)) : Prop :=
  ∀ start stop p q, Value.attribute? slots "start" = some start →
    Value.attribute? slots "end" = some stop → start.IsAt p → stop.IsAt q → p.upTo q = true

/-! ### Conforming values -/

/-- An attribute is there for a reason: it was given, or its declaration fills it in. Only a field
that is optional or nullable may be given as null. -/
def Slot.Keeps (d : FieldDecl) (s : Slot Value) : Prop :=
  match s.origin with
  | .given => s.value = .null → d.asField.optional = true ∨ d.asField.nullable = true
  | .filled => d.fallback = some s.value
  | .stray => False

inductive Conforms (F : Family) : Shape → Value → Prop
  | null {p : Primitive} (kind : p.kind = .null) : Conforms F (.primitive p) .null
  | text {p : Primitive} (kind : p.kind = .string) (s : String) :
      Conforms F (.primitive p) (.text s)
  | boolean {p : Primitive} (kind : p.kind = .boolean) (b : Bool) :
      Conforms F (.primitive p) (.bool b)
  | integer {p : Primitive} (kind : p.kind = .integer) (n : Int)
      (low : ∀ k, p.minimum = some k → k ≤ n) (high : ∀ k, p.maximum = some k → n ≤ k) :
      Conforms F (.primitive p) (.int n)
  | float {p : Primitive} (kind : p.kind = .float) (x : Double) :
      Conforms F (.primitive p) (.float x)
  | member {e : EnumShape} {m : EnumMember} (declared : m ∈ e.members) :
      Conforms F (.enumeration e) (.member m)
  /-- Without members an enumeration has its codes as values. -/
  | code {e : EnumShape} {v : Value} (members : e.members = []) (listed : e.codes.admits v = true)
      (json : v.IsJson) : Conforms F (.enumeration e) v
  | any {v : Value} (json : v.IsJson) : Conforms F .any v
  | absent (inner : Shape) : Conforms F (.nullable inner) .null
  | present {inner : Shape} {v : Value} (value : Conforms F inner v) :
      Conforms F (.nullable inner) v
  | list {element : Shape} {xs : List Value} (items : ∀ x ∈ xs, Conforms F element x) :
      Conforms F (.sequence element) (.list xs)
  | union {alternatives : List Shape} {s : Shape} {v : Value} (listed : s ∈ alternatives)
      (value : Conforms F s v) : Conforms F (.union alternatives) v
  | record {ref : ModelRef} {m : Model} {slots : List (Slot Value)} (model : F.find? ref = some m)
      (names : ∀ d ∈ m.fields, ∃ s ∈ slots, s.name = d.name)
      (keeps : ∀ d ∈ m.fields, ∀ s ∈ slots, s.name = d.name → s.Keeps d)
      (values : ∀ d ∈ m.fields, ∀ s ∈ slots, s.name = d.name → s.value ≠ .null →
        Conforms F d.asField.shape s.value)
      (order : m.ordered = true → Slot.InOrder slots) :
      Conforms F (.record ref) (.record ref slots)

/-! ### Conforming primitives -/

namespace Conforms

variable {F : Family} {p : Primitive} {v : Value}

theorem null_inv (kind : p.kind = .null) (h : Conforms F (.primitive p) v) :
    v = .null := by
  cases h with
  | null => exact rfl
  | text h' => cases kind.symm.trans h'
  | boolean h' => cases kind.symm.trans h'
  | integer h' => cases kind.symm.trans h'
  | float h' => cases kind.symm.trans h'

theorem text_inv (kind : p.kind = .string) (h : Conforms F (.primitive p) v) :
    ∃ s, v = .text s := by
  cases h with
  | text _ s => exact ⟨s, rfl⟩
  | null h' => cases kind.symm.trans h'
  | boolean h' => cases kind.symm.trans h'
  | integer h' => cases kind.symm.trans h'
  | float h' => cases kind.symm.trans h'

theorem boolean_inv (kind : p.kind = .boolean) (h : Conforms F (.primitive p) v) :
    ∃ b, v = .bool b := by
  cases h with
  | boolean _ b => exact ⟨b, rfl⟩
  | null h' => cases kind.symm.trans h'
  | text h' => cases kind.symm.trans h'
  | integer h' => cases kind.symm.trans h'
  | float h' => cases kind.symm.trans h'

theorem integer_inv (kind : p.kind = .integer) (h : Conforms F (.primitive p) v) :
    ∃ n, v = .int n ∧ (∀ k, p.minimum = some k → k ≤ n) ∧ ∀ k, p.maximum = some k → n ≤ k := by
  cases h with
  | integer _ n low high => exact ⟨n, rfl, low, high⟩
  | null h' => cases kind.symm.trans h'
  | text h' => cases kind.symm.trans h'
  | boolean h' => cases kind.symm.trans h'
  | float h' => cases kind.symm.trans h'

end Conforms

/-! ### Sameness by fields -/

/-- A null that only stands for absence is put where the field was left out. -/
def FieldDecl.settle (d : FieldDecl) (s : Slot Value) : Slot Value :=
  if s.value.isNull && d.dropsNull then { s with origin := .filled } else s

/-- The attributes that a model declares, in declared order and settled. -/
def Model.arrange (m : Model) (slots : List (Slot Value)) : List (Slot Value) :=
  m.fields.filterMap fun d => (Value.slot? slots d.name).map d.settle

namespace Value

mutual

/-- The value with the attributes of all its records in declared order, and with null on an
optional field that is not nullable counted as absent. -/
def settled (F : Family) : Value → Value
  | .list xs => .list (settledAll F xs)
  | .record ref slots =>
    .record ref (((F.find? ref).map fun m => m.arrange (settledSlots F slots)).getD slots)
  | v => v

def settledAll (F : Family) : List Value → List Value
  | [] => []
  | x :: xs => x.settled F :: settledAll F xs

def settledSlots (F : Family) : List (Slot Value) → List (Slot Value)
  | [] => []
  | ⟨name, v, origin⟩ :: rest => ⟨name, v.settled F, origin⟩ :: settledSlots F rest

end

/-- Two typed values agree in every field, whatever the order of their attributes. -/
def SameFields (F : Family) (u v : Value) : Prop := u.settled F = v.settled F

variable {F : Family}

theorem settledAll_eq_map (xs : List Value) : settledAll F xs = xs.map (settled F) := by
  induction xs with
  | nil => rfl
  | cons x xs ih => rw [settledAll, ih, List.map_cons]

theorem settled_list (xs : List Value) :
    (Value.list xs).settled F = .list (xs.map (settled F)) := by
  rw [settled, settledAll_eq_map]

/-- The slot with its value settled. -/
def settledSlot (F : Family) (s : Slot Value) : Slot Value := { s with value := s.value.settled F }

theorem settledSlots_eq_map (slots : List (Slot Value)) :
    settledSlots F slots = slots.map (settledSlot F) := by
  induction slots with
  | nil => rfl
  | cons s rest ih =>
      obtain ⟨name, v, origin⟩ := s
      rw [settledSlots, ih]
      rfl

theorem slot?_settledSlots (slots : List (Slot Value)) (name : String) :
    slot? (settledSlots F slots) name = (slot? slots name).map (settledSlot F) := by
  rw [settledSlots_eq_map]
  induction slots with
  | nil => rfl
  | cons s rest ih =>
      show (if s.name = name then some (settledSlot F s)
          else slot? (rest.map (settledSlot F)) name) =
        (if s.name = name then some s else slot? rest name).map (settledSlot F)
      split
      · rfl
      · exact ih

theorem isNull_settled (v : Value) : (v.settled F).isNull = v.isNull := by
  cases v <;> rfl

theorem IsJson.settled {w : Value} (hw : w.IsJson) : w.settled F = w := by
  induction hw with
  | list items ih =>
      rename_i xs
      rw [settled_list, List.map_congr_left ih, List.map_id']
  | _ => rfl

theorem settled_record {ref : ModelRef} {m : Model} (hm : F.find? ref = some m)
    (slots : List (Slot Value)) :
    (Value.record ref slots).settled F = .record ref (m.arrange (settledSlots F slots)) := by
  rw [settled, hm]
  rfl

end Value

/-! ### Arranged attributes -/

@[simp] theorem FieldDecl.settle_value (d : FieldDecl) (s : Slot Value) :
    (d.settle s).value = s.value := by
  unfold settle
  split <;> rfl

@[simp] theorem FieldDecl.settle_name (d : FieldDecl) (s : Slot Value) :
    (d.settle s).name = s.name := by
  unfold settle
  split <;> rfl

theorem Model.slot?_arrange {F : Family} {m : Model} (hm : m.Regular F) {d : FieldDecl}
    (hd : d ∈ m.fields) (slots : List (Slot Value)) :
    Value.slot? (m.arrange slots) d.name = (Value.slot? slots d.name).map d.settle := by
  refine Value.slot?_filterMap (fun e s hs => ?_) hm.names hd
  obtain ⟨t, ht, rfl⟩ := Option.map_eq_some_iff.1 hs
  rw [FieldDecl.settle_name]
  exact (Value.mem_of_slot? ht).2

end EditorProtocol
