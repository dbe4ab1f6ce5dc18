import EditorProtocol.Codec.Validation

/-!
Making record values without validation: from given values, and as a copy of another record. Every
way fills in the fields left out that have a value to fill in.
-/

namespace EditorProtocol

/-- The attributes of a record with given values. A field takes what is given under its key or,
where that is missing, under its name; nothing is taken twice. -/
def FieldDecl.slots : List FieldDecl → List (String × Value) → List (Slot Value)
  | [], _ => []
  | d :: rest, values =>
    let taken (key : String) : Option (String × Value) :=
      (Value.lookup values key).map fun v => (key, v)
    match (taken d.wire).or (taken d.name) with
    | some (key, v) => ⟨d.name, v, .given⟩ :: slots rest (values.filter (·.1 != key))
    | none =>
      let filled := (d.fallback.map fun v => (⟨d.name, v, .filled⟩ : Slot Value)).toList
      filled ++ slots rest values

/-- The record with the given values; nothing is checked. -/
def Model.instanceOf (m : Model) (values : List (String × Value)) : Value :=
  .record m.ref (FieldDecl.slots m.fields values)

/-- A copy of a record with other values; nothing is checked. What the model does not declare stays
on the copy without being a part of it. -/
def Value.withAttributes (F : Family) (v : Value) (values : List (String × Value)) : Value :=
  match v with
  | .record model slots =>
    let origin (name : String) : Origin :=
      if (F.find? model).all (·.declares name) then .given else .stray
    let replace (slots : List (Slot Value)) (e : String × Value) : List (Slot Value) :=
      let slot : Slot Value := ⟨e.1, e.2, origin e.1⟩
      if slots.any (·.name == e.1) then slots.map fun s => if s.name == e.1 then slot else s
      else slots ++ [slot]
    .record model (values.foldl replace slots)
  | v => v

end EditorProtocol
