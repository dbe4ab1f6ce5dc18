import EditorProtocol.Proofs.Codec.Apart
import EditorProtocol.Proofs.Codec.Sealing
import EditorProtocol.Proofs.Codec.Soundness

/-!
Records on the wire and back. A record is delivered field by field: what is written for its fields
passes validation, has no keys but theirs, and is decoded to the same attributes, settled. Settling
a record leaves it where it is, and what is decoded to a position, or taken for one, has the same
line and character on the wire.
-/

namespace EditorProtocol

variable {F : Family} {ref : ModelRef} {m : Model} {slots : List (Slot Value)}

/-! ### Positions -/

section Positions

variable {exact : Bool} {v w : Value} {p : Position}

/-- A settled record is where it was. -/
theorem Value.IsAt.settled (hF : F.Regular) (hpos : F.isPositional (.model ref) = true)
    (hv : Conforms F (.record ref) v) (h : v.IsAt p) : (v.settled F).IsAt p := by
  obtain ⟨_, m, heq, hm, hkind, hline, hcharacter⟩ := Family.isPositional_inv hpos
  cases heq
  obtain ⟨own, slots, rfl, _, hl, hc⟩ := h
  cases hv
  have hcoordinate : ∀ {name : String} {n : Int}, m.Needs name TypeExpr.isInteger →
      attribute? slots name = some (.int n) →
        attribute? (m.arrange (settledSlots F slots)) name = some (.int n) := by
    rintro name n ⟨d, hd, rfl, _⟩ hn
    obtain ⟨s, hs, hvalue⟩ := Option.map_eq_some_iff.1 hn
    rw [attribute?, Model.slot?_arrange (hF.model hm).1 hd, slot?_settledSlots, hs]
    show some (d.settle (settledSlot F s)).value = some (.int n)
    rw [FieldDecl.settle_value, settledSlot, hvalue]
    rfl
  rw [settled_record hm]
  exact ⟨ref, _, rfl, hkind, hcoordinate hline hl, hcoordinate hcharacter hc⟩

/-- An integer of a decoded record is on the wire under its name. -/
theorem at?_of_decoded (hF : F.Regular) (hm : F.find? ref = some m) {name : String}
    (hneeds : m.Needs name TypeExpr.isInteger) (hw : w.IsJson) {own : ModelRef}
    {slots : List (Slot Value)}
    (h : (decode F exact w (.record ref)).outcome = .ok (.record own slots)) {n : Int}
    (hn : Value.attribute? slots name = some (.int n)) : w.at? name = some (.int n) := by
  obtain ⟨d, hd, rfl, hwire, _, hinteger⟩ := hneeds
  have hregular := (hF.model hm).1
  obtain ⟨_, hrecord, _⟩ := (decode_record_iff hF hm hw (isObject_of_decode h)).1 h
  cases hrecord
  rw [Value.attribute?, Model.slot?_slots hregular.keyed hd] at hn
  cases hdecoded : Model.decoded F exact w d with
  | none =>
      rw [hdecoded] at hn
      cases hn
  | some u =>
      rw [hdecoded] at hn
      cases hn
      obtain ⟨item, hitem, hvalue⟩ := Option.bind_eq_some_iff.1 hdecoded
      -- A primitive is decoded to itself, so the integer is the item on the wire.
      have hat := (Field.item?_some_iff.1 hitem).1
      rw [(hregular.fields d hd).wire_eq, hwire] at hat
      obtain ⟨q, hq, hshape⟩ := FieldDecl.integer_shape (hregular.fields d hd).shaped hinteger
      have hfloat : q.kind ≠ .float := by
        rw [hq]
        exact PrimitiveKind.noConfusion
      rw [hshape, decode, Traced.outcome_of] at hvalue
      cases haccept : q.accept item with
      | error f =>
          rw [haccept] at hvalue
          cases hvalue
      | ok k =>
          rw [haccept] at hvalue
          cases hvalue
          obtain ⟨_, _, heq⟩ := Primitive.accept_inv (F := F) hfloat haccept
          rw [hat, ← heq (hw.at? hat)]

end Positions

/-! ### Values -/

/-- A wire value stands for a typed value of a shape: the one is written for the other, which is
read back settled. -/
structure Delivers (F : Family) (s : Shape) (v w : Value) : Prop where
  encoded : encode F v s = .ok w
  json : w.IsJson
  decoded : (decode F false w s).outcome = .ok (v.settled F)

theorem Delivers.isNull (hF : F.Regular) {s : Shape} (hs : s.isRegular F = true) {v w : Value}
    (h : Delivers F s v w) : w.isNull = v.isNull := by
  rw [← ((decode_sound hF hs h.json).2 _ h.decoded).2.2, Value.isNull_settled]

theorem Delivers.null (inner : Shape) : Delivers F (.nullable inner) .null .null := by
  refine ⟨encode_null rfl, .null, ?_⟩
  rw [decode]
  rfl

/-! ### Fields -/

namespace FieldDecl

variable {d : FieldDecl} {s : Slot Value} {u : Value}

/-- What becomes of an attribute: it is written and read back, or it is null and left out. -/
inductive Delivery (F : Family) (slots : List (Slot Value)) (d : FieldDecl) : Prop
  | sent {s : Slot Value} {u : Value} (slot : Value.slot? slots d.name = some s)
      (keeps : s.Keeps d) (isSent : s.isSent d = true)
      (conforms : Conforms F d.asField.shape s.value)
      (delivers : Delivers F d.asField.shape s.value u)
  | left {s : Slot Value} (slot : Value.slot? slots d.name = some s) (keeps : s.Keeps d)
      (isLeft : s.isSent d = false) (null : s.value = .null)
      (optional : d.asField.optional = true)

/-- What an attribute is read back as. -/
def delivered (F : Family) (slots : List (Slot Value)) (d : FieldDecl) : Option Value :=
  (Value.slot? slots d.name).bind fun s =>
    if s.isSent d then some (s.value.settled F) else none

/-- An attribute of a conforming record is delivered if its value is. -/
theorem Regular.delivery (hd : d.Regular F) (slot : Value.slot? slots d.name = some s)
    (keeps : s.Keeps d)
    (hvalue : s.value ≠ .null → Conforms F d.asField.shape s.value ∧
      ∃ u, Delivers F d.asField.shape s.value u) : d.Delivery F slots := by
  by_cases hnull : s.value = .null
  -- A null is sent only where it is kept, and there it is written and read back as null.
  · cases hsent : s.isSent d with
    | true =>
        have hnullable := (Slot.isSent_iff.1 hsent).2 (Value.isNull_iff.2 hnull)
        obtain ⟨inner, hshape⟩ := Shape.isNullable_iff.1 hnullable
        have hconforms : Conforms F d.asField.shape s.value := by
          rw [hnull, hshape]
          exact .absent inner
        have hdelivers : Delivers F d.asField.shape s.value .null := by
          rw [hnull, hshape]
          exact .null inner
        exact .sent slot keeps hsent hconforms hdelivers
    | false =>
        refine .left slot keeps hsent hnull ?_
        have hkeeps := keeps
        unfold Slot.Keeps at hkeeps
        split at hkeeps
        · next horigin =>
          refine (hkeeps hnull).resolve_right fun hnullable => ?_
          rw [Slot.isSent_iff.2 ⟨horigin, fun _ => hnullable⟩] at hsent
          cases hsent
        · rw [hd.optional_eq, hkeeps]
          rfl
        · exact hkeeps.elim
  · obtain ⟨hconforms, u, hdelivers⟩ := hvalue hnull
    have hsent : s.isSent d = true := by
      refine Slot.isSent_iff.2 ⟨?_, fun h => absurd (Value.isNull_iff.1 h) hnull⟩
      unfold Slot.Keeps at keeps
      split at keeps
      · next horigin => exact horigin
      · exact absurd (hd.eq_null_of_fallback keeps) hnull
      · exact keeps.elim
    exact .sent slot keeps hsent hconforms hdelivers

theorem delivered_of_isSent (slot : Value.slot? slots d.name = some s)
    (isSent : s.isSent d = true) : d.delivered F slots = some (s.value.settled F) := by
  unfold delivered
  rw [slot, Option.bind_some, if_pos isSent]

theorem delivered_of_left (slot : Value.slot? slots d.name = some s)
    (isLeft : s.isSent d = false) : d.delivered F slots = none := by
  unfold delivered
  rw [slot, Option.bind_some, isLeft]
  rfl

/-- Settled, an attribute is what it is read back as. -/
theorem Delivery.settle_eq (h : d.Delivery F slots) :
    (Value.slot? (Value.settledSlots F slots) d.name).map d.settle =
      some (d.slotOf (d.delivered F slots)) := by
  rw [Value.slot?_settledSlots]
  cases h with
  | @sent s u slot keeps isSent _ _ =>
      obtain ⟨horigin, hnull⟩ := Slot.isSent_iff.1 isSent
      obtain ⟨name, v, origin⟩ := s
      cases horigin
      cases (Value.mem_of_slot? slot).2
      rw [delivered_of_isSent slot isSent, slot]
      show some (if _ then _ else _) = _
      rw [if_neg]
      · rfl
      · rw [Value.settledSlot, Value.isNull_settled, dropsNull, Bool.and_eq_true,
          Bool.and_eq_true]
        rintro ⟨hv, _, hdrops⟩
        rw [hnull hv] at hdrops
        cases hdrops
  | @left s slot keeps isLeft null optional =>
      obtain ⟨name, v, origin⟩ := s
      cases null
      cases (Value.mem_of_slot? slot).2
      rw [delivered_of_left slot isLeft, slot]
      show some (if _ then _ else _) = _
      split
      · rfl
      · next hkept =>
        rw [Value.settledSlot, dropsNull, optional] at hkept
        have hnullable : d.asField.nullable = true := by
          simpa [Value.settled, Value.isNull] using hkept
        unfold Slot.Keeps at keeps
        split at keeps
        · next horigin =>
          rw [Slot.isSent_iff.2 ⟨horigin, fun _ => hnullable⟩] at isLeft
          cases isLeft
        · next horigin =>
          cases horigin
          rfl
        · exact keeps.elim

end FieldDecl

/-! ### Entries -/

namespace Model

variable {d : FieldDecl}

theorem arrange_delivered (h : ∀ d ∈ m.fields, d.Delivery F slots) :
    m.arrange (Value.settledSlots F slots) = m.slots (FieldDecl.delivered F slots) := by
  unfold arrange
  rw [List.filterMap_congr fun d hd => (h d hd).settle_eq]
  exact congrFun List.filterMap_eq_map m.fields

theorem at?_wire (hm : m.Regular F) (hd : d ∈ m.fields) :
    (Value.object (m.written F slots)).at? d.wire = d.sent F slots :=
  Value.lookup_filterMap hm.wires hd

/-- Nothing is written under the name of a field but its own value. -/
theorem given?_written (hm : m.Regular F) (hd : d ∈ m.fields) :
    d.given? true (.object (m.written F slots)) = (d.sent F slots).map (d.wire, ·) := by
  unfold FieldDecl.given?
  rw [at?_wire hm hd]
  cases hsent : d.sent F slots with
  | some u => rfl
  | none =>
      -- Validation falls back on the name, which is the wire key of no other field.
      have hname : (Value.object (m.written F slots)).at? d.name = none := by
        by_cases hmem : d.name ∈ m.fields.map (·.wire)
        · obtain ⟨e, he, hwire⟩ := List.mem_map.1 hmem
          cases hm.eq_of_name he hd (hm.apart e he d hd hwire)
          rw [← hwire, at?_wire hm he, hsent]
        · exact Value.lookup_filterMap_of_not_mem hmem
      rw [hname]
      rfl

theorem written_isJson (h : ∀ d ∈ m.fields, d.Delivery F slots) :
    (Value.object (m.written F slots)).IsJson := by
  refine .object fun e he => ?_
  obtain ⟨d, hd, hsent⟩ := List.mem_filterMap.1 he
  obtain ⟨u, hu, rfl⟩ := Option.map_eq_some_iff.1 hsent
  cases h d hd with
  | sent slot _ isSent _ delivers =>
      rw [FieldDecl.sent_of_isSent slot isSent delivers.encoded] at hu
      cases hu
      exact delivers.json
  | left slot _ isLeft =>
      rw [FieldDecl.sent_of_left slot isLeft] at hu
      cases hu

/-- What is written for a field is read back, settled. -/
theorem isDecoded_written (hF : F.Regular) (hm : m.Regular F)
    (h : ∀ d ∈ m.fields, d.Delivery F slots) (hd : d ∈ m.fields) :
    d.asField.IsDecoded F false (.object (m.written F slots)) ∧
      decoded F false (.object (m.written F slots)) d = d.delivered F slots := by
  have hregular := hm.fields d hd
  have hat : (Value.object (m.written F slots)).at? d.asField.wire = d.sent F slots := by
    rw [hregular.wire_eq, at?_wire hm hd]
  unfold Field.IsDecoded decoded Field.value?
  cases h d hd with
  | @sent s u slot keeps isSent _ delivers =>
      have hnull : u.isNull = true → d.asField.nullable = true := by
        rw [delivers.isNull hF hregular.shape]
        exact (Slot.isSent_iff.1 isSent).2
      have hitem : d.asField.item? (.object (m.written F slots)) = some u := by
        rw [Field.item?_some_iff, hat, FieldDecl.sent_of_isSent slot isSent delivers.encoded]
        refine ⟨rfl, ?_⟩
        cases hu : u.isNull with
        | false => rfl
        | true =>
            rw [hnull hu]
            rfl
      rw [hitem, FieldDecl.delivered_of_isSent slot isSent, Option.bind_some, delivers.decoded]
      exact ⟨⟨hnull, _, delivers.decoded⟩, rfl⟩
  | @left s slot keeps isLeft _ optional =>
      have hitem : d.asField.item? (.object (m.written F slots)) = none := by
        rw [Field.item?_none_iff, hat, FieldDecl.sent_of_left slot isLeft]
        exact .inl rfl
      rw [hitem, FieldDecl.delivered_of_left slot isLeft]
      exact ⟨optional, rfl⟩

/-- What is written for a field is taken by its type. -/
theorem isTaken_written (hF : F.Regular) (hm : m.Regular F)
    (h : ∀ d ∈ m.fields, d.Delivery F slots) (hd : d ∈ m.fields) :
    d.IsTaken F true (.object (m.written F slots)) := by
  have hregular := hm.fields d hd
  unfold FieldDecl.IsTaken
  rw [given?_written hm hd]
  cases h d hd with
  | @sent s u slot keeps isSent _ delivers =>
      rw [FieldDecl.sent_of_isSent slot isSent delivers.encoded]
      show ∃ r, d.type.fit F [] u = .ok r
      rcases hregular.type_shape with hshape | ⟨hshape, _⟩
      · exact fit_encoded hF d.type hshape hregular.plain hregular.shape delivers.encoded
          delivers.json
      -- The declared type allows a null that the field leaves out.
      · refine fit_encoded (v := s.value) hF d.type hshape hregular.plain hregular.shape ?_
          delivers.json
        rw [encode]
        split
        · next hnull =>
          rw [← delivers.isNull hF hregular.shape, Value.isNull_iff] at hnull
          rw [hnull]
        · exact delivers.encoded
  | @left s slot keeps isLeft _ optional =>
      rw [FieldDecl.sent_of_left slot isLeft]
      show d.fallback.isSome = true
      rw [← hregular.optional_eq, optional]

/-! ### Records -/

/-- Where a model needs a position, the record is at one with what it has, with what is read back
and with what its type takes. -/
theorem place_written (hF : F.Regular) (hm : m.Regular F) (h : ∀ d ∈ m.fields, d.Delivery F slots)
    {name : String} (hneeds : m.Needs name F.isPositional) :
    ∃ p, (∃ v, Value.attribute? slots name = some v ∧ v.IsAt p) ∧
      (∃ v, Value.attribute? (m.slots (FieldDecl.delivered F slots)) name = some v ∧ v.IsAt p) ∧
      ∃ v, Value.attribute? (m.fields.map (·.fitted F true (.object (m.written F slots)))) name =
        some v ∧ v.IsAt p := by
  obtain ⟨d, hd, ref, rfl, hwire, hnone, htype, hshape, hpos⟩ := hm.keyed.positional hneeds
  have hdelivery := h d hd
  cases hdelivery with
  | @left s slot keeps isLeft _ optional =>
      rw [(hm.fields d hd).optional_eq, Option.isNone_iff_eq_none.1 hnone] at optional
      cases optional
  | @sent s u slot keeps isSent conforms delivers =>
      rw [hshape] at conforms
      obtain ⟨p, hp⟩ := conforms.isAt hF hpos
      have hsettled : (s.value.settled F).IsAt p := hp.settled hF hpos conforms
      refine ⟨p, ⟨s.value, ?_, hp⟩, ⟨s.value.settled F, ?_, hsettled⟩, ?_⟩
      · rw [Value.attribute?, slot]
        rfl
      · rw [Value.attribute?, slot?_slots hm.keyed hd, FieldDecl.delivered_of_isSent slot isSent]
        rfl
      -- Validation reads the position off the wire again, where it finds the same coordinates.
      · obtain ⟨_, n, heq, hn, _, hline, hcharacter⟩ := Family.isPositional_inv hpos
        cases heq
        have htaken := isTaken_written hF hm h hd
        have hgiven : d.given? true (.object (m.written F slots)) = _ := given?_written hm hd
        rw [FieldDecl.sent_of_isSent slot isSent delivers.encoded] at hgiven
        unfold FieldDecl.IsTaken at htaken
        rw [hgiven] at htaken
        obtain ⟨r, hr⟩ := htaken
        have hdecoded := delivers.decoded
        rw [hshape] at hdecoded
        obtain ⟨own, ts, hrecord, _, hl, hc⟩ := hsettled
        rw [hrecord] at hdecoded
        have hfit := hr
        rw [htype] at hfit
        obtain ⟨q, hq, hunique⟩ := fit_position hn (hF.model hn).1.names hpos
          (fun own slots hu => by cases hu ▸ delivers.json) hfit
        cases hunique p
          ⟨⟨_, at?_of_decoded hF hn hline delivers.json hdecoded hl, rfl⟩,
            _, at?_of_decoded hF hn hcharacter delivers.json hdecoded hc, rfl⟩
        refine ⟨r.value, ?_, hq⟩
        rw [Value.attribute?, Value.slot?_map (fun e => FieldDecl.fitted_name e) hm.names hd]
        unfold FieldDecl.fitted
        rw [hgiven]
        show some (((d.type.fit F [] u).toOption.map (·.value)).getD .null) = _
        rw [hr]
        rfl

/-- The wire form of a record with an order keeps the rules of its model. -/
theorem seal_written (hF : F.Regular) (hm : m.Regular F) (h : ∀ d ∈ m.fields, d.Delivery F slots)
    (horder : m.ordered = true → Slot.InOrder slots) (v : Value) :
    m.seal F v (m.written F slots) = .ok (.object (m.written F slots)) := by
  have hcomplete : m.complete (.object (m.written F slots)) []
      (m.fields.map (·.fitted F true (.object (m.written F slots)))) = .ok _ :=
    m.complete_ok fun hordered => by
      obtain ⟨p, ⟨start, hstart, hp⟩, _, start', hstart', hp'⟩ :=
        place_written hF hm h (hm.start hordered)
      obtain ⟨q, ⟨stop, hstop, hq⟩, _, stop', hstop', hq'⟩ :=
        place_written hF hm h (hm.stop hordered)
      exact (checkOrder_positions hstart' hstop' hp' hq').2.1.2
        (horder hordered start stop p q hstart hstop hp hq)
  unfold Model.seal
  rw [m.validate_eq rfl, hm.byName, fitFields_ok fun d hd => isTaken_written hF hm h hd, ok_bind,
    hcomplete]

/-- A record whose attributes are delivered is delivered. -/
theorem delivers_record (hF : F.Regular) (hm : F.find? ref = some m)
    (h : ∀ d ∈ m.fields, d.Delivery F slots) (horder : m.ordered = true → Slot.InOrder slots) :
    Delivers F (.record ref) (.record ref slots) (.object (m.written F slots)) := by
  have hregular := (hF.model hm).1
  have hencoded : encodeFields F ref ref slots (.record ref slots)
      (m.fields.map FieldDecl.asField) = .ok (m.written F slots) := by
    refine encodeFields_ok hregular hm (fun d hd => hd) fun d hd => ?_
    cases h d hd with
    | sent slot keeps _ _ delivers => exact ⟨_, slot, keeps, fun _ => ⟨_, delivers.encoded⟩⟩
    | left slot keeps isLeft => exact ⟨_, slot, keeps, fun hsent => by cases isLeft ▸ hsent⟩
  have hslots : m.slots (decoded F false (.object (m.written F slots))) =
      m.slots (FieldDecl.delivered F slots) :=
    List.map_congr_left fun d hd => by rw [(isDecoded_written hF hregular h hd).2]
  refine ⟨?_, written_isJson h, ?_⟩
  · rw [encode_record hregular.keyed hm, hencoded, ok_bind]
    exact seal_written hF hregular h horder _
  · rw [Value.settled_record hm, arrange_delivered h,
      decode_record_iff hF hm (written_isJson h) rfl, hslots]
    refine ⟨fun d hd => (isDecoded_written hF hregular h hd).1, rfl, fun hordered => ?_⟩
    obtain ⟨p, ⟨start, hstart, hp⟩, ⟨start', hstart', hp'⟩, _⟩ :=
      place_written hF hregular h (hregular.start hordered)
    obtain ⟨q, ⟨stop, hstop, hq⟩, ⟨stop', hstop', hq'⟩, _⟩ :=
      place_written hF hregular h (hregular.stop hordered)
    exact (checkOrder_positions (w := .null) hstart' hstop' hp' hq').2.2.2
      (horder hordered start stop p q hstart hstop hp hq)

end Model

end EditorProtocol
