import EditorProtocol.Proofs.Codec.Decoding
import EditorProtocol.Proofs.Codec.Plain

/-!
Putting records together. Decoded values of fields are taken for themselves by the types of their
fields, so a record has them in declared order, with null where a field is absent; only a start
that comes after its end keeps it from being made.
-/

namespace EditorProtocol

variable {F : Family} {ref : ModelRef} {m : Model} {v w : Value}

/-! ### Attributes of conforming records -/

/-- A conforming record has what its model needs. -/
theorem Conforms.needed {slots : List (Slot Value)} (hm : m.Regular F)
    (hfind : F.find? ref = some m) (h : Conforms F (.record ref) (.record ref slots))
    {d : FieldDecl} (hd : d ∈ m.fields) (hnone : d.fallback.isNone = true)
    (hnullable : d.asField.nullable = false) :
    ∃ u, Value.attribute? slots d.name = some u ∧ Conforms F d.asField.shape u := by
  cases h with
  | record model names keeps values order =>
      rw [hfind] at model
      cases model
      obtain ⟨s, hslot⟩ := Value.exists_slot? (names d hd)
      obtain ⟨hs, hname⟩ := Value.mem_of_slot? hslot
      refine ⟨s.value, by rw [Value.attribute?, hslot, Option.map_some], ?_⟩
      refine values d hd s hs hname fun hnull => ?_
      have hkeeps := keeps d hd s hs hname
      rw [Option.isNone_iff_eq_none] at hnone
      unfold Slot.Keeps at hkeeps
      split at hkeeps
      · rcases hkeeps hnull with hoptional | hnullable'
        · rw [(hm.fields d hd).optional_eq, hnone] at hoptional
          cases hoptional
        · rw [hnullable] at hnullable'
          cases hnullable'
      · rw [hnone] at hkeeps
        cases hkeeps
      · exact hkeeps

/-- A conforming record of a model of positions is at a position. -/
theorem Conforms.isAt (hF : F.Regular) (hpos : F.isPositional (.model ref) = true)
    (h : Conforms F (.record ref) v) : ∃ p, v.IsAt p := by
  obtain ⟨_, m, heq, hm, hkind, hline, hcharacter⟩ := Family.isPositional_inv hpos
  cases heq
  have hinteger : ∀ {slots : List (Slot Value)} {name : String},
      Conforms F (.record ref) (.record ref slots) → m.Needs name TypeExpr.isInteger →
        ∃ n, Value.attribute? slots name = some (.int n) := by
    rintro slots name h ⟨d, hd, rfl, _, hnone, hinteger⟩
    have hregular := (hF.model hm).1
    obtain ⟨p, hp, hfield⟩ := FieldDecl.integer_shape (hregular.fields d hd).shaped hinteger
    obtain ⟨u, hu, hconforms⟩ := h.needed hregular hm hd hnone (by rw [Field.nullable, hfield]; rfl)
    rw [hfield] at hconforms
    rw [hu]
    obtain ⟨n, rfl, _⟩ := hconforms.integer_inv hp
    exact ⟨n, rfl⟩
  cases h with
  | @record _ _ slots model names keeps values order =>
      have h := Conforms.record model names keeps values order
      obtain ⟨l, hl⟩ := hinteger h hline
      obtain ⟨c, hc⟩ := hinteger h hcharacter
      exact ⟨⟨l, c⟩, ref, slots, rfl, hkind, hl, hc⟩

/-! ### Order -/

/-- Of two positions, the rule about their order is either kept or broken. -/
theorem checkOrder_positions {start stop : Value} {slots : List (Slot Value)} {p q : Position}
    (hstart : Value.attribute? slots "start" = some start)
    (hstop : Value.attribute? slots "end" = some stop) (hp : start.IsAt p) (hq : stop.IsAt q) :
    Answered (checkOrder w slots) ∧ (checkOrder w slots = .ok () ↔ p.upTo q = true) ∧
      (Slot.InOrder slots ↔ p.upTo q = true) := by
  rw [checkOrder_eq hstart hstop hp hq]
  refine ⟨?_, ?_, ?_⟩
  · split
    · exact .ok ()
    · exact .refused _
  · split
    · next horder => exact ⟨fun _ => horder, fun _ => rfl⟩
    · next horder =>
      constructor
      · intro h
        cases h
      · exact fun h => absurd h horder
  · constructor
    · intro h
      exact h start stop p q hstart hstop hp hq
    · intro h a b p' q' ha hb hp' hq'
      rw [hstart] at ha
      rw [hstop] at hb
      cases ha
      cases hb
      rw [hp'.unique hp, hq'.unique hq]
      exact h

/-! ### Made records -/

/-- The attribute that becomes of a field: given, or filled in with null. -/
def FieldDecl.slotOf (d : FieldDecl) : Option Value → Slot Value
  | some v => ⟨d.name, v, .given⟩
  | none => ⟨d.name, .null, .filled⟩

@[simp] theorem FieldDecl.slotOf_name (d : FieldDecl) (o : Option Value) :
    (d.slotOf o).name = d.name := by
  cases o <;> rfl

/-- Values for the fields of a model, each of the shape of its field and none missing. -/
structure Model.Filled (F : Family) (m : Model) (given : FieldDecl → Option Value) : Prop where
  values : ∀ d ∈ m.fields, ∀ v, given d = some v → Conforms F d.asField.shape v
  absent : ∀ d ∈ m.fields, given d = none → d.asField.optional = true

namespace Model

variable {given : FieldDecl → Option Value}

/-- The values under the names of their fields. -/
def entries (m : Model) (given : FieldDecl → Option Value) : List (String × Value) :=
  m.fields.filterMap fun d => (given d).map (d.name, ·)

/-- The attributes in declared order. -/
def slots (m : Model) (given : FieldDecl → Option Value) : List (Slot Value) :=
  m.fields.map fun d => d.slotOf (given d)

theorem slot?_slots (hm : m.Keyed) {d : FieldDecl} (hd : d ∈ m.fields) :
    Value.slot? (m.slots given) d.name = some (d.slotOf (given d)) :=
  Value.slot?_map (fun d => d.slotOf_name (given d)) hm.names hd

/-- Under the name of a field there is its value. -/
theorem at?_entries (hm : m.Keyed) {d : FieldDecl} (hd : d ∈ m.fields) :
    (Value.object (m.entries given)).at? d.name = given d :=
  Value.lookup_filterMap hm.names hd

/-- Under the name of a field, or under a key that is no other name, there is its value. -/
theorem given?_entries (given : FieldDecl → Option Value) (hm : m.Keyed) {d : FieldDecl}
    (hd : d ∈ m.fields) :
    ∃ key, d.given? true (.object (m.entries given)) = (given d).map (key, ·) := by
  have hname : (Value.object (m.entries given)).at? d.name = given d := at?_entries hm hd
  unfold FieldDecl.given?
  -- Entries are keyed by names, but the wire key is looked up first.
  by_cases hwire : d.wire ∈ m.fields.map (·.name)
  · obtain ⟨e, he, heq⟩ := List.mem_map.1 hwire
    rw [← heq, ← hm.apart d hd e he heq.symm, hname]
    cases given d with
    | none => exact ⟨d.name, rfl⟩
    | some v => exact ⟨d.name, rfl⟩
  · rw [show (Value.object (m.entries given)).at? d.wire = none from
      Value.lookup_filterMap_of_not_mem hwire, hname]
    cases given d with
    | none => exact ⟨d.name, rfl⟩
    | some v => exact ⟨d.name, rfl⟩

/-- The values of fields are taken one at a time, and a field may stay without if it is optional. -/
theorem fitFields_given {taken : FieldDecl → Option Value} (hm : m.Regular F)
    (h : ∀ d ∈ m.fields, (∃ v u fit, given d = some v ∧ taken d = some u ∧
        d.type.fit F [] v = .ok ⟨u, fit⟩) ∨
      given d = none ∧ taken d = none ∧ d.asField.optional = true) :
    fitFields F true (.object (m.entries given)) m.fields = .ok ([], m.slots taken) := by
  have hfitted : ∀ d ∈ m.fields, d.IsTaken F true (.object (m.entries given)) ∧
      d.fitted F true (.object (m.entries given)) = d.slotOf (taken d) := by
    intro d hd
    obtain ⟨key, hkey⟩ := given?_entries given hm.keyed hd
    unfold FieldDecl.IsTaken FieldDecl.fitted
    rw [hkey]
    rcases h d hd with ⟨v, u, fit, hgiven, htaken, hfit⟩ | ⟨hgiven, htaken, hoptional⟩
    · rw [hgiven, htaken]
      refine ⟨⟨_, hfit⟩, ?_⟩
      dsimp only [Option.map_some]
      rw [hfit]
      rfl
    · rw [hgiven, htaken, (hm.fields d hd).fallback_of_optional hoptional]
      exact ⟨rfl, rfl⟩
  rw [fitFields_ok fun d hd => (hfitted d hd).1]
  rw [List.map_congr_left fun d hd => (hfitted d hd).2]
  rfl

/-- A conforming value of a field is taken for itself. -/
theorem fit_conforming (hF : F.Regular) {d : FieldDecl} (hd : d.Regular F) {v : Value}
    (hv : Conforms F d.asField.shape v) : ∃ fit, d.type.fit F [] v = .ok ⟨v, fit⟩ := by
  rcases hd.type_shape with hshape | ⟨hshape, _⟩
  · obtain ⟨fit, hfit, _⟩ := fit_typed hF d.type hshape hd.plain hv
    exact ⟨fit, hfit⟩
  · obtain ⟨fit, hfit, _⟩ := fit_typed hF d.type hshape hd.plain (.present hv)
    exact ⟨fit, hfit⟩

/-- Conforming values of fields are taken for themselves. -/
theorem fitFields_entries (hF : F.Regular) (hm : m.Regular F) (h : m.Filled F given) :
    fitFields F true (.object (m.entries given)) m.fields = .ok ([], m.slots given) := by
  refine fitFields_given hm fun d hd => ?_
  cases hgiven : given d with
  | none => exact .inr ⟨rfl, rfl, h.absent d hd hgiven⟩
  | some v =>
      obtain ⟨fit, hfit⟩ := fit_conforming hF (hm.fields d hd) (h.values d hd v hgiven)
      exact .inl ⟨v, v, fit, rfl, rfl, hfit⟩

/-- The start and the end of a record with an order are positions. -/
theorem Filled.place (hF : F.Regular) (hm : m.Regular F) (h : m.Filled F given) {name : String}
    (hneeds : m.Needs name F.isPositional) :
    ∃ u p, Value.attribute? (m.slots given) name = some u ∧ u.IsAt p := by
  obtain ⟨d, hd, ref, hname, _, hnone, _, hshape, hpos⟩ := hm.keyed.positional hneeds
  cases hgiven : given d with
  | none =>
      have hoptional := h.absent d hd hgiven
      rw [(hm.fields d hd).optional_eq, Option.isNone_iff_eq_none.1 hnone] at hoptional
      cases hoptional
  | some u =>
      have hu := h.values d hd u hgiven
      rw [hshape] at hu
      obtain ⟨p, hp⟩ := hu.isAt hF hpos
      refine ⟨u, p, ?_, hp⟩
      rw [← hname, Value.attribute?, slot?_slots hm.keyed hd, hgiven]
      rfl

/-- Conforming values of fields give the record that has them, unless its order is broken. -/
theorem assemble_iff (hF : F.Regular) (hm : m.Regular F) (h : m.Filled F given) :
    Decided (m.assemble F w (m.entries given)) ∧
      ∀ v, m.assemble F w (m.entries given) = .ok v ↔
        v = .record m.ref (m.slots given) ∧ (m.ordered = true → Slot.InOrder (m.slots given)) := by
  have hmake : m.make F (m.entries given) =
      m.complete (.object (m.entries given)) [] (m.slots given) := by
    unfold make
    rw [m.validate_eq rfl, hm.byName, fitFields_entries hF hm h]
    rfl
  have horder : m.ordered = true →
      Answered (checkOrder (.object (m.entries given)) (m.slots given)) ∧
        (checkOrder (.object (m.entries given)) (m.slots given) = .ok () ↔
          Slot.InOrder (m.slots given)) := by
    intro hordered
    obtain ⟨start, p, hstart, hp⟩ := h.place hF hm (hm.start hordered)
    obtain ⟨stop, q, hstop, hq⟩ := h.place hF hm (hm.stop hordered)
    obtain ⟨hanswered, hcheck, hinOrder⟩ := checkOrder_positions hstart hstop hp hq
    exact ⟨hanswered, hcheck.trans hinOrder.symm⟩
  have hanswered :
      Answered (m.complete (.object (m.entries given)) [] (m.slots given)) :=
    complete_answered fun _ hordered => (horder hordered).1
  unfold assemble
  rw [hmake]
  cases hcomplete : m.complete (.object (m.entries given)) [] (m.slots given) with
  | ok u =>
      obtain ⟨_, rfl, hkept⟩ := complete_inv hcomplete
      refine ⟨decided_ok _, fun v => ?_⟩
      constructor
      · intro hv
        cases hv
        exact ⟨rfl, fun hordered => (horder hordered).2.1 (hkept hordered)⟩
      · rintro ⟨rfl, _⟩
        rfl
  | error rejection =>
      rw [hcomplete] at hanswered
      cases hanswered with
      | refused vs =>
          refine ⟨decided_refuse _ _ _, fun v => ?_⟩
          constructor
          · intro hv
            cases hv
          · rintro ⟨_, hinOrder⟩
            rw [complete_ok fun hordered => (horder hordered).2.2 (hinOrder hordered)] at hcomplete
            cases hcomplete

end Model

end EditorProtocol
