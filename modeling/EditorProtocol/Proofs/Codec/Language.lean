import EditorProtocol.Proofs.Codec.Closed
import EditorProtocol.Proofs.Codec.Reading

/-!
The language of a shape: the JSON values that it admits, said without decoding. Over a regular
family a value is decoded exactly if it is admitted, and the records that it is decoded to count as
given what the wire has for them.
-/

namespace EditorProtocol

/-! ### Admitted values -/

/-- A value is of the kind of a primitive and within its bounds. -/
def Primitive.Holds (p : Primitive) (w : Value) : Prop :=
  match p.kind, w with
  | .null, .null => True
  | .string, .text _ => True
  | .boolean, .bool _ => True
  | .integer, .int n => (∀ k, p.minimum = some k → k ≤ n) ∧ ∀ k, p.maximum = some k → n ≤ k
  | .float, .float _ => True
  | .float, .int _ => True
  | _, _ => False

/-- The start of an object does not come after its end, where both denote positions. -/
def Value.InOrder (w : Value) : Prop :=
  ∀ start stop p q, w.at? "start" = some start → w.at? "end" = some stop →
    start.Denotes p → stop.Denotes q →
      p.line < q.line ∨ p.line = q.line ∧ p.character ≤ q.character

/-- The JSON values of a shape. In a record, a field that must be there may be null only if it is
nullable, and on any other field null is as good as nothing. -/
inductive Shape.Admits (F : Family) : Shape → Value → Prop
  | primitive {p : Primitive} {w : Value} (holds : p.Holds w) : Admits F (.primitive p) w
  | code {e : EnumShape} {c : Scalar} (listed : c ∈ e.codes.scalars) :
      Admits F (.enumeration e) (.ofScalar c)
  | any {w : Value} (json : w.IsJson) : Admits F .any w
  | absent (inner : Shape) : Admits F (.nullable inner) .null
  | present {inner : Shape} {w : Value} (value : Admits F inner w) : Admits F (.nullable inner) w
  | array {element : Shape} {xs : List Value} (items : ∀ x ∈ xs, Admits F element x) :
      Admits F (.sequence element) (.list xs)
  | union {alternatives : List Shape} {s : Shape} {w : Value} (listed : s ∈ alternatives)
      (value : Admits F s w) : Admits F (.union alternatives) w
  | record {ref : ModelRef} {m : Model} {fields : List Field} {w : Value}
      (object : w.isObject = true) (model : F.find? ref = some m)
      (declared : F.fields ref = .ok fields)
      (needed : ∀ f ∈ fields, f.optional = false →
        ∃ item, w.at? f.wire = some item ∧ (item = .null → f.nullable = true))
      (values : ∀ f ∈ fields, ∀ item, w.at? f.wire = some item →
        (item = .null → f.optional = false) → Admits F f.shape item)
      (order : m.ordered = true → w.InOrder) : Admits F (.record ref) w

/-- What a record was decoded from has something for a field exactly if the record counts the field
as given; a null counts only on a nullable field. The same holds of all records within. -/
inductive Shape.Tracks (F : Family) : Shape → Value → Value → Prop
  | primitive (p : Primitive) (w : Value) {v : Value} (plain : v.isTyped = false) :
      Tracks F (.primitive p) w v
  | enumeration (e : EnumShape) (w : Value) {v : Value} (plain : v.isTyped = false) :
      Tracks F (.enumeration e) w v
  | any (w : Value) : Tracks F .any w w
  | absent (inner : Shape) : Tracks F (.nullable inner) .null .null
  | present {inner : Shape} {w v : Value} (value : Tracks F inner w v) :
      Tracks F (.nullable inner) w v
  | array {element : Shape} {xs vs : List Value} (length : xs.length = vs.length)
      (items : ∀ x v, (x, v) ∈ xs.zip vs → Tracks F element x v) :
      Tracks F (.sequence element) (.list xs) (.list vs)
  | union {alternatives : List Shape} {s : Shape} {w v : Value} (listed : s ∈ alternatives)
      (value : Tracks F s w v) : Tracks F (.union alternatives) w v
  | record {ref : ModelRef} {fields : List Field} {w : Value} {slots : List (Slot Value)}
      (declared : F.fields ref = .ok fields)
      (given : ∀ f ∈ fields, Value.isGiven slots f.name = true ↔
        ∃ item, w.at? f.wire = some item ∧ (item = .null → f.nullable = true))
      (values : ∀ f ∈ fields, ∀ item v, w.at? f.wire = some item →
        Value.isGiven slots f.name = true → Value.attribute? slots f.name = some v →
          Tracks F f.shape item v) :
      Tracks F (.record ref) w (.record ref slots)

variable {F : Family} {exact : Bool} {ref : ModelRef} {m : Model} {s : Shape} {w v : Value}

/-! ### Scalars -/

theorem Primitive.holds_iff {p : Primitive} (hfloat : p.kind ≠ .float) :
    p.Holds w ↔ Conforms F (.primitive p) w := by
  unfold Holds
  constructor
  · intro h
    split at h
    · next hkind => exact .null hkind
    · next s hkind => exact .text hkind s
    · next b hkind => exact .boolean hkind b
    · next n hkind => exact .integer hkind n h.1 h.2
    · next hkind => exact absurd hkind hfloat
    · next hkind => exact absurd hkind hfloat
    · exact h.elim
  · intro h
    cases h with
    | null hkind => simp [hkind]
    | text hkind => simp [hkind]
    | boolean hkind => simp [hkind]
    | integer hkind n low high =>
        rw [hkind]
        exact ⟨low, high⟩
    | float hkind => exact absurd hkind hfloat

theorem takes_primitive {p : Primitive} (hfloat : p.kind ≠ .float) (hw : w.IsJson) :
    (Shape.primitive p).Takes F w ↔ (Shape.primitive p).Admits F w := by
  unfold Shape.Takes
  rw [decode, Traced.outcome_of]
  constructor
  · rintro ⟨v, hv⟩
    obtain ⟨hconforms, _, heq⟩ := Primitive.accept_inv (F := F) hfloat hv
    exact .primitive ((Primitive.holds_iff hfloat).2 (heq hw ▸ hconforms))
  · intro h
    cases h with
    | primitive holds =>
        exact ⟨w, Primitive.accept_of_conforms ((Primitive.holds_iff (F := F) hfloat).1 holds)⟩

theorem takes_enumeration {e : EnumShape} (hw : w.IsJson) :
    (Shape.enumeration e).Takes F w ↔ (Shape.enumeration e).Admits F w := by
  have haccept : (Shape.enumeration e).Takes F w ↔ ∃ v, e.accept w = .ok v := by
    unfold Shape.Takes
    rw [decode, Traced.outcome_of]
    constructor
    · rintro ⟨v, hv⟩
      obtain ⟨code, hcode, _⟩ := bind_eq_ok.1 hv
      exact ⟨code, hcode⟩
    · rintro ⟨code, hcode⟩
      exact ⟨_, bind_eq_ok.2 ⟨code, hcode, rfl⟩⟩
  rw [haccept]
  constructor
  · rintro ⟨v, hv⟩
    obtain ⟨c, hc, rfl⟩ := Codes.admits_inv (EnumShape.accept_ok_iff.1 hv).2 hw
    exact .code hc
  · intro h
    cases h with
    | code listed => exact ⟨_, EnumShape.accept_ok_iff.2 ⟨rfl, (Codes.admits_scalar listed).1⟩⟩

/-! ### Order -/

namespace Position

theorem upTo_iff_le {p q : Position} :
    p.upTo q = true ↔ p.line < q.line ∨ p.line = q.line ∧ p.character ≤ q.character := by
  simp only [upTo, before, Bool.not_eq_true', Bool.or_eq_false_iff, Bool.and_eq_false_iff,
    decide_eq_false_iff_not, beq_eq_false_iff_ne]
  omega

end Position

theorem Value.Denotes.unique {p q : Position} (hp : w.Denotes p) (hq : w.Denotes q) : p = q := by
  obtain ⟨⟨x, hx, hline⟩, y, hy, hcharacter⟩ := hp
  obtain ⟨⟨x', hx', hline'⟩, y', hy', hcharacter'⟩ := hq
  cases hx.symm.trans hx'
  cases hy.symm.trans hy'
  obtain ⟨l, c⟩ := p
  cases hline.symm.trans hline'
  cases hcharacter.symm.trans hcharacter'
  rfl

/-- Where a model needs a position, its record has the one that the wire denotes. -/
theorem Model.decoded_place (hF : F.Regular) (hm : m.Regular F) {name : String}
    (hdecoded : ∀ d ∈ m.fields, d.asField.IsDecoded F exact w)
    (hneeds : m.Needs name F.isPositional) :
    ∃ u item p, Value.attribute? (m.slots (Model.decoded F exact w)) name = some u ∧ u.IsAt p ∧
      w.at? name = some item ∧ item.Denotes p := by
  obtain ⟨d, hd, ref, hname, hwire, hnone, _, hshape, hpos⟩ := hm.keyed.positional hneeds
  obtain ⟨u, hu⟩ := decoded_needed hm.keyed hd hnone (hdecoded d hd)
  obtain ⟨item, hat, _, hdecode⟩ := decoded_inv hm.keyed hd hu
  rw [hshape] at hdecode
  obtain ⟨p, hp, hdenotes⟩ := decode_position hF.sound hpos hdecode
  refine ⟨u, item, p, ?_, hp, hwire ▸ hat, hdenotes⟩
  rw [← hname, Value.attribute?, slot?_slots hm.keyed hd, hu]
  rfl

/-- A decoded record keeps its order exactly if what it was decoded from does. -/
theorem Model.inOrder_iff (hF : F.Regular) (hm : m.Regular F) (hordered : m.ordered = true)
    (hdecoded : ∀ d ∈ m.fields, d.asField.IsDecoded F exact w) :
    Slot.InOrder (m.slots (Model.decoded F exact w)) ↔ w.InOrder := by
  obtain ⟨start, startItem, p, hstart, hp, hstartAt, hstartDenotes⟩ :=
    decoded_place hF hm hdecoded (hm.start hordered)
  obtain ⟨stop, stopItem, q, hstop, hq, hstopAt, hstopDenotes⟩ :=
    decoded_place hF hm hdecoded (hm.stop hordered)
  rw [(checkOrder_positions (w := w) hstart hstop hp hq).2.2, Position.upTo_iff_le]
  constructor
  · intro h a b p' q' ha hb hp' hq'
    cases hstartAt.symm.trans ha
    cases hstopAt.symm.trans hb
    rw [hp'.unique hstartDenotes, hq'.unique hstopDenotes]
    exact h
  · intro h
    exact h _ _ _ _ hstartAt hstopAt hstartDenotes hstopDenotes

/-! ### Records -/

/-- A field is decoded exactly if it has what it needs and what it has is admitted. -/
theorem Field.isDecoded_iff {f : Field}
    (hitem : ∀ item, w.at? f.wire = some item → (f.shape.Takes F item ↔ f.shape.Admits F item)) :
    f.IsDecoded F false w ↔
      (f.optional = false →
        ∃ item, w.at? f.wire = some item ∧ (item = .null → f.nullable = true)) ∧
      ∀ item, w.at? f.wire = some item → (item = .null → f.optional = false) →
        f.shape.Admits F item := by
  constructor
  · intro h
    refine ⟨fun hneeded => ?_, fun item hat hcounts => ?_⟩
    · obtain ⟨item, hitem?, hat⟩ := h.exists_item hneeded
      exact ⟨item, hat, fun hnull => h.nullable (hnull ▸ hitem?)⟩
    · refine (hitem item hat).1 (h.takes (item?_some_iff.2 ⟨hat, ?_⟩))
      cases hnull : item.isNull with
      | false => rfl
      | true => rw [hcounts (Value.isNull_iff.1 hnull), Bool.and_false]
  · rintro ⟨hneeded, hvalues⟩
    unfold IsDecoded
    split
    · next hnone =>
      by_contra hoptional
      obtain ⟨item, hat, _⟩ := hneeded (Bool.eq_false_iff.2 hoptional)
      rcases item?_none_iff.1 hnone with hnone | ⟨_, _, hdrops⟩
      · cases hnone.symm.trans hat
      · exact hoptional (Bool.and_eq_true_iff.1 hdrops).2
    · next item hfound =>
      obtain ⟨hat, hkept⟩ := item?_some_iff.1 hfound
      have hnullable : item.isNull = true → f.nullable = true := by
        intro hnull
        cases hoptional : f.optional with
        | true => simpa [hnull, hoptional] using hkept
        | false =>
            obtain ⟨item', hat', hnullable⟩ := hneeded hoptional
            cases hat.symm.trans hat'
            exact hnullable (Value.isNull_iff.1 hnull)
      refine ⟨hnullable, ?_⟩
      cases hnull : item.isNull with
      | true =>
          obtain ⟨inner, hshape⟩ := Shape.isNullable_iff.1 (hnullable hnull)
          exact ⟨.null, by rw [hshape, decode, if_pos hnull, Traced.outcome_pure]⟩
      | false =>
          refine (hitem item hat).2 (hvalues item hat fun h => ?_)
          rw [h] at hnull
          cases hnull

theorem takes_record (hF : F.Regular) (hm : F.find? ref = some m) (hw : w.IsJson)
    (hitem : ∀ d ∈ m.fields, ∀ item, w.at? d.wire = some item →
      (d.asField.shape.Takes F item ↔ d.asField.shape.Admits F item)) :
    (Shape.record ref).Takes F w ↔ (Shape.record ref).Admits F w := by
  have hregular := (hF.model hm).1
  have hfield : ∀ d ∈ m.fields, ∀ item, w.at? d.asField.wire = some item →
      (d.asField.shape.Takes F item ↔ d.asField.shape.Admits F item) := fun d hd item hat =>
    hitem d hd item ((hregular.fields d hd).wire_eq ▸ hat)
  constructor
  · intro h
    have hobject := h.record_inv.1
    obtain ⟨v, hv⟩ := h
    obtain ⟨hdecoded, _, horder⟩ := (decode_record_iff hF hm hw hobject).1 hv
    have hadmits := fun d hd => (Field.isDecoded_iff (hfield d hd)).1 (hdecoded d hd)
    refine .record hobject hm (hF.fields hm) ?_ ?_ fun hordered => ?_
    · exact List.forall_mem_map.2 fun d hd => (hadmits d hd).1
    · exact List.forall_mem_map.2 fun d hd => (hadmits d hd).2
    · exact (Model.inOrder_iff hF hregular hordered hdecoded).1 (horder hordered)
  · intro h
    cases h with
    | record hobject model declared needed values order =>
        cases hm.symm.trans model
        cases (hF.fields hm).symm.trans declared
        rw [List.forall_mem_map] at needed values
        have hdecoded : ∀ d ∈ m.fields, d.asField.IsDecoded F false w := fun d hd =>
          (Field.isDecoded_iff (hfield d hd)).2 ⟨needed d hd, values d hd⟩
        refine ⟨_, (decode_record_iff hF hm hw hobject).2 ⟨hdecoded, rfl, fun hordered => ?_⟩⟩
        exact (Model.inOrder_iff hF hregular hordered hdecoded).2 (order hordered)

/-! ### Nulls, arrays and unions -/

theorem takes_nullable {inner : Shape} (h : inner.Takes F w ↔ inner.Admits F w) :
    (Shape.nullable inner).Takes F w ↔ (Shape.nullable inner).Admits F w := by
  constructor
  · intro htakes
    by_cases hnull : w = .null
    · exact hnull ▸ .absent inner
    · exact .present (h.1 (htakes.nullable_inv hnull))
  · intro hadmits
    unfold Shape.Takes
    rw [decode]
    split
    · exact ⟨.null, rfl⟩
    · next hnull =>
      cases hadmits with
      | absent => exact absurd rfl hnull
      | present value => exact h.2 value

theorem takes_sequence {element : Shape}
    (h : ∀ xs, w = .list xs → ∀ x ∈ xs, (element.Takes F x ↔ element.Admits F x)) :
    (Shape.sequence element).Takes F w ↔ (Shape.sequence element).Admits F w := by
  constructor
  · rintro ⟨v, hv⟩
    obtain ⟨xs, vs, rfl, rfl, hvs⟩ := decode_sequence_inv hv
    refine .array fun x hx => (h xs rfl x hx).1 ?_
    obtain ⟨u, _, hu⟩ := exists_of_forall₂ hvs.flip hx
    exact ⟨u, hu⟩
  · intro hadmits
    cases hadmits with
    | @array _ xs items =>
        have hitems : ∀ x ∈ xs, element.Takes F x := fun x hx => (h xs rfl x hx).2 (items x hx)
        rcases decodeItems_decided (fun x hx => .inl (hitems x hx)) 0 with ⟨vs, hvs⟩ | hrefused
        · refine ⟨.list vs, ?_⟩
          rw [decode, Traced.outcome_bind, hvs]
          rfl
        · obtain ⟨x, hx, hrefused⟩ := refused_of_items hrefused
          obtain ⟨v, hv⟩ := hitems x hx
          exact absurd hv (hrefused.ne_ok v)

theorem takes_union {alternatives : List Shape}
    (hdecided : ∀ s ∈ alternatives, Decided (decode F false w s).outcome)
    (h : ∀ s ∈ alternatives, (s.Takes F w ↔ s.Admits F w)) :
    (Shape.union alternatives).Takes F w ↔ (Shape.union alternatives).Admits F w := by
  constructor
  · rintro ⟨v, hv⟩
    obtain ⟨s, hs, hv⟩ := decode_union_inv hv
    exact .union hs ((h s hs).1 ⟨v, hv⟩)
  · intro hadmits
    cases hadmits with
    | @union _ s _ listed value =>
        obtain ⟨v, hv⟩ := (h s listed).2 value
        refine (decode_union hdecided).1.resolve_right fun hrefused => ?_
        exact (refused_of_union hrefused s listed).ne_ok v hv

/-! ### The language -/

/-- Over a regular family a JSON value is decoded exactly if it is admitted. -/
theorem takes_iff_admits (hF : F.Regular) {s : Shape} {w : Value} (hs : s.isRegular F = true)
    (hw : w.IsJson) : s.Takes F w ↔ s.Admits F w := by
  -- The wire value gets smaller at items and entries; at null and in unions only the shape does.
  cases s with
  | primitive p => exact takes_primitive (by simpa [Shape.isRegular] using hs) hw
  | enumeration e => exact takes_enumeration hw
  | any =>
      refine ⟨fun _ => .any hw, fun _ => ⟨w, ?_⟩⟩
      rw [decode, Traced.outcome_of, hw.checkJson]
      rfl
  | nullable inner =>
      have hinner := takes_iff_admits (s := inner) hF hs hw
      exact takes_nullable hinner
  | sequence element =>
      have hitem : ∀ xs, w = .list xs → ∀ x ∈ xs, (element.Takes F x ↔ element.Admits F x) := by
        rintro xs rfl x hx
        cases hw with
        | list items => exact takes_iff_admits hF hs (items x hx)
      exact takes_sequence hitem
  | union alternatives =>
      rw [Shape.isRegular, Bool.and_eq_true] at hs
      have hmember : ∀ s ∈ alternatives, (s.Takes F w ↔ s.Admits F w) := fun s hmem =>
        takes_iff_admits hF (Shape.areRegular_mem hs.1 hmem) hw
      refine takes_union (fun s hmem => ?_) hmember
      exact (decode_sound hF (Shape.areRegular_mem hs.1 hmem) hw).decided
  | record ref =>
      obtain ⟨m, hm⟩ := Option.isSome_iff_exists.1 hs
      have hregular := (hF.model hm).1
      exact takes_record hF hm hw fun d hd item hat =>
        takes_iff_admits hF (hregular.fields d hd).shape (hw.at? hat)
termination_by (sizeOf w, sizeOf s)
decreasing_by
  · exact Prod.Lex.left _ _ (Value.sizeOf_lt_of_at? hat)
  all_goals subst_vars
  · exact Prod.Lex.right _ (Shape.sizeOf_lt_of_mem hmem)
  · exact Prod.Lex.left _ _ (Value.sizeOf_lt_of_mem hx)
  · exact Prod.Lex.right _ (by simp +arith)

/-! ### What is given -/

/-- A record that is made of values counts as given the fields that there is a value for. -/
theorem Model.isGiven_slots {given : FieldDecl → Option Value} (hm : m.Keyed) {d : FieldDecl}
    (hd : d ∈ m.fields) : Value.isGiven (m.slots given) d.name = (given d).isSome := by
  rw [Value.isGiven, slot?_slots hm hd]
  cases given d <;> rfl

theorem Model.attribute?_slots {given : FieldDecl → Option Value} (hm : m.Keyed) {d : FieldDecl}
    (hd : d ∈ m.fields) :
    Value.attribute? (m.slots given) d.name = some ((given d).getD .null) := by
  rw [Value.attribute?, slot?_slots hm hd]
  cases given d <;> rfl

/-- A field counts as given in a decoded record exactly if the wire has something for it. -/
theorem Model.isGiven_decoded (hm : m.Keyed) {d : FieldDecl} (hd : d ∈ m.fields)
    (h : d.asField.IsDecoded F exact w) :
    Value.isGiven (m.slots (Model.decoded F exact w)) d.name = true ↔
      ∃ item, w.at? d.asField.wire = some item ∧ (item = .null → d.asField.nullable = true) := by
  rw [isGiven_slots hm hd]
  unfold Field.IsDecoded at h
  unfold Model.decoded Field.value?
  split at h
  · next hnone =>
    rw [hnone]
    refine ⟨fun hsome => absurd hsome Bool.false_ne_true, ?_⟩
    rintro ⟨item, hat, hnullable⟩
    rcases Field.item?_none_iff.1 hnone with hnone | ⟨item', hat', hdrops⟩
    · cases hnone.symm.trans hat
    · cases hat.symm.trans hat'
      simp only [Bool.and_eq_true, Bool.not_eq_true'] at hdrops
      rw [hnullable (Value.isNull_iff.1 hdrops.1.1)] at hdrops
      cases hdrops.1.2
  · next item hfound =>
    obtain ⟨hnullable, v, hv⟩ := h
    rw [hfound, Option.bind_some, hv]
    refine ⟨fun _ => ⟨item, (Field.item?_some_iff.1 hfound).1, fun hnull => ?_⟩, fun _ => rfl⟩
    exact hnullable (Value.isNull_iff.2 hnull)

theorem tracks_record (hF : F.Regular) (hm : F.find? ref = some m) (hw : w.IsJson)
    (h : (decode F exact w (.record ref)).outcome = .ok v)
    (hitem : ∀ d ∈ m.fields, ∀ item u, w.at? d.wire = some item →
      (decode F exact item d.asField.shape).outcome = .ok u →
        d.asField.shape.Tracks F item u) :
    (Shape.record ref).Tracks F w v := by
  have hregular := (hF.model hm).1
  have hname : ∀ d ∈ m.fields, d.asField.name = d.name := fun d hd =>
    FieldDecl.asField_name (hregular.keyed.shaped d hd)
  obtain ⟨hdecoded, rfl, _⟩ := (decode_record_iff hF hm hw (isObject_of_decode h)).1 h
  refine .record (hF.fields hm) (List.forall_mem_map.2 fun d hd => ?_)
    (List.forall_mem_map.2 fun d hd item u hat hgiven hattribute => ?_)
  · rw [hname d hd]
    exact Model.isGiven_decoded hregular.keyed hd (hdecoded d hd)
  · -- A field that counts as given has the value that was decoded for it, not a default.
    rw [hname d hd] at hgiven hattribute
    rw [Model.isGiven_slots hregular.keyed hd] at hgiven
    obtain ⟨u', hu'⟩ := Option.isSome_iff_exists.1 hgiven
    rw [Model.attribute?_slots hregular.keyed hd, hu'] at hattribute
    cases hattribute
    obtain ⟨item', hat', _, hdecode⟩ := Model.decoded_inv hregular.keyed hd hu'
    rw [(hregular.fields d hd).wire_eq] at hat
    cases hat'.symm.trans hat
    exact hitem d hd _ _ hat' hdecode

/-- Over a regular family, decoded records count as given what the wire has for them. -/
theorem decode_tracks (hF : F.Regular) {s : Shape} {w v : Value} (hs : s.isRegular F = true)
    (hw : w.IsJson) (h : (decode F exact w s).outcome = .ok v) : s.Tracks F w v := by
  -- The recursion is that of decoding, as before.
  cases s with
  | primitive p =>
      rw [decode, Traced.outcome_of] at h
      exact .primitive p w (Primitive.accept_json h).isTyped
  | enumeration e =>
      rw [decode, Traced.outcome_of] at h
      obtain ⟨code, hcode, h⟩ := bind_eq_ok.1 h
      cases h
      refine .enumeration e w ?_
      cases e.memberOf? code with
      | none => exact (EnumShape.accept_ok_iff.1 hcode).1 ▸ hw.isTyped
      | some member => rfl
  | any =>
      rw [decode, Traced.outcome_of] at h
      obtain ⟨_, _, h⟩ := bind_eq_ok.1 h
      cases h
      exact .any w
  | nullable inner =>
      rw [decode] at h
      split at h
      · next hnull =>
        cases h
        cases Value.isNull_iff.1 hnull
        exact .absent inner
      · exact .present (decode_tracks hF hs hw h)
  | sequence element =>
      obtain ⟨xs, vs, rfl, rfl, hvs⟩ := decode_sequence_inv h
      cases hw with
      | list items =>
          obtain ⟨hlength, hzip⟩ := List.forall₂_iff_zip.1 hvs
          refine .array hlength fun x u hmem => ?_
          have hx := (List.of_mem_zip hmem).1
          exact decode_tracks hF hs (items x hx) (hzip hmem)
  | union alternatives =>
      rw [Shape.isRegular, Bool.and_eq_true] at hs
      obtain ⟨s, hmem, hv⟩ := decode_union_inv h
      exact .union hmem (decode_tracks hF (Shape.areRegular_mem hs.1 hmem) hw hv)
  | record ref =>
      obtain ⟨m, hm⟩ := Option.isSome_iff_exists.1 hs
      have hregular := (hF.model hm).1
      exact tracks_record hF hm hw h fun d hd item u hat hdecode =>
        decode_tracks hF (hregular.fields d hd).shape (hw.at? hat) hdecode
termination_by (sizeOf w, sizeOf s)
decreasing_by
  · exact Prod.Lex.left _ _ (Value.sizeOf_lt_of_at? hat)
  all_goals subst_vars
  · exact Prod.Lex.right _ (Shape.sizeOf_lt_of_mem hmem)
  · exact Prod.Lex.left _ _ (Value.sizeOf_lt_of_mem hx)
  · exact Prod.Lex.right _ (by simp +arith)

end EditorProtocol
