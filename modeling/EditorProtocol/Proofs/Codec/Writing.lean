import EditorProtocol.Proofs.Codec.Dumping
import EditorProtocol.Proofs.Codec.Retaking

/-!
Whatever is written can be read. Encoding takes more than conforming values: a record may stand in
for one of another model, and an enumeration member for its code. What is written is not refused all
the same, as its fields were checked by validation and its unions by one of their alternatives; only
an integer that is too large for a float keeps it from being read, where one alternative of a union
wrote the integer and another one has the float.
-/

namespace EditorProtocol

variable {F : Family} {ref own : ModelRef} {m : Model} {slots : List (Slot Value)} {v w : Value}

/-! ### Nulls -/

namespace Shape

mutual

/-- Whether null is one of the values of a shape, other than in place of one of them. -/
def takesNull : Shape → Bool
  | .primitive p => p.kind == .null
  | .union alternatives => someTakesNull alternatives
  | .nullable inner => inner.takesNull
  | _ => false

def someTakesNull : List Shape → Bool
  | [] => false
  | s :: rest => s.takesNull || someTakesNull rest

end

theorem someTakesNull_mem {alternatives : List Shape} {s : Shape} (hs : s ∈ alternatives)
    (h : someTakesNull alternatives = false) : s.takesNull = false := by
  induction alternatives with
  | nil => cases hs
  | cons t rest ih =>
      rw [someTakesNull, Bool.or_eq_false_iff] at h
      rcases List.mem_cons.1 hs with rfl | hs
      · exact h.1
      · exact ih hs h.2

end Shape

/-- No field of a model has null among its values, other than in place of one of them. -/
def Family.LacksNull (F : Family) : Prop :=
  ∀ m ∈ F.models, ∀ d ∈ m.fields, d.asField.shape.takesNull = false

instance (F : Family) : Decidable F.LacksNull :=
  inferInstanceAs (Decidable (∀ m ∈ F.models, ∀ d ∈ m.fields, _))

theorem isObject_dump (F : Family) (t : TypeExpr) (own : ModelRef) (slots : List (Slot Value))
    (h : dump F t (.record own slots) = .ok w) : w.isObject = true := by
  rw [dump] at h
  obtain ⟨entries, _, h⟩ := bind_eq_ok.1 h
  cases h
  rfl

/-- Null is written for null only. -/
theorem isNull_of_encode (hF : F.Sound) {s : Shape} (hnull : s.takesNull = false)
    (h : encode F v s = .ok .null) : v.isNull = true := by
  cases s with
  | primitive p =>
      rw [encode] at h
      have hconforms : Conforms F (.primitive p) .null := Primitive.accept_conforms h
      cases hconforms with
      | null kind =>
          rw [Shape.takesNull, kind] at hnull
          cases hnull
  | enumeration e =>
      rw [encode] at h
      obtain ⟨heq, hadmits⟩ := EnumShape.accept_ok_iff.1 h
      cases heq ▸ Codes.isNull_of_admits hadmits
  | nullable inner =>
      rw [encode] at h
      split at h
      · next hv => exact hv
      · exact isNull_of_encode (s := inner) hF hnull h
  | sequence element =>
      obtain ⟨xs, ws, hw, _⟩ := encode_sequence_inv h
      cases hw
  | union alternatives =>
      obtain ⟨t, ht, h⟩ := encode_union_inv h
      exact isNull_of_encode hF (Shape.someTakesNull_mem ht hnull) h
  | record ref =>
      cases hfind : F.find? ref with
      | none => cases encode_record_unknown hfind h
      | some m =>
          obtain ⟨_, _, _, _, _, hw, _⟩ := encode_record_inv (hF.model hfind).1.keyed hfind h
          cases hw
  | any =>
      cases v with
      | record own slots =>
          rw [encode] at h
          cases isObject_dump F .any own slots h
      | _ =>
          rw [encode] at h
          · obtain ⟨_, _, h⟩ := bind_eq_ok.1 h
            exact Value.isNull_iff.2 (Except.ok.inj h)
          · rintro own slots ⟨⟩
termination_by sizeOf s
decreasing_by
  all_goals subst_vars
  · exact Shape.sizeOf_lt_of_mem ht
  · simp +arith

/-! ### Fields -/

/-- What is written for a field: nothing if its attribute may be absent and is, null for a null that
is kept, or what is written for the attribute. -/
inductive Field.Wrote (F : Family) (slots : List (Slot Value)) (f : Field) : Option Value → Prop
  | nothing (optional : f.optional = true) (absent : Value.isGiven slots f.name = true →
      ∃ slot, Value.slot? slots f.name = some slot ∧ slot.value.isNull = true) :
      Wrote F slots f none
  | null (nullable : f.nullable = true) {slot : Slot Value}
      (found : Value.slot? slots f.name = some slot) (isNull : slot.value.isNull = true) :
      Wrote F slots f (some .null)
  | value {slot : Slot Value} {w : Value} (found : Value.slot? slots f.name = some slot)
      (present : slot.value.isNull = false) (encoded : encode F slot.value f.shape = .ok w) :
      Wrote F slots f (some w)

/-- An item that is written is null, or it is written for some value. -/
theorem Field.Wrote.item_inv {f : Field} (h : f.Wrote F slots (some w)) :
    w = .null ∨ ∃ u, encode F u f.shape = .ok w := by
  cases h with
  | null => exact .inl rfl
  | @value slot _ _ _ encoded => exact .inr ⟨slot.value, encoded⟩

/-- What is written for the first field comes before what is written for the other ones. It needs a
field of the record's own model, unless it may be left out and is. -/
theorem encodeFields_cons_inv {whole : Value} {f : Field} {rest : List Field}
    {entries : List (String × Value)}
    (h : encodeFields F ref own slots whole (f :: rest) = .ok entries) :
    ∃ item others, f.Wrote F slots item ∧ encodeFields F ref own slots whole rest = .ok others ∧
      entries = (item.map (f.wire, ·)).toList ++ others ∧
        (f.optional = false ∨ item.isSome = true →
          (F.find? own).any (·.declares f.name) = true) := by
  rw [encodeFields] at h
  split at h
  · next hleft =>
    obtain ⟨hoptional, hgiven⟩ := Bool.and_eq_true_iff.1 hleft
    refine ⟨none, entries, .nothing hoptional fun h => ?_, h, rfl, ?_⟩
    · rw [h] at hgiven
      cases hgiven
    · rintro (hneeded | ⟨⟨⟩⟩)
      cases hoptional.symm.trans hneeded
  split at h
  · cases h
  · next hdeclared =>
    rw [Bool.not_eq_true', Bool.not_eq_false] at hdeclared
    split at h
    · cases h
    · next slot hslot =>
      split at h
      · next hnull =>
        split at h
        · next hnullable =>
          obtain ⟨others, hrest, h⟩ := bind_eq_ok.1 h
          cases h
          exact ⟨some .null, others, .null hnullable hslot hnull, hrest, rfl, fun _ => hdeclared⟩
        split at h
        · next hoptional =>
          exact ⟨none, entries, .nothing hoptional fun _ => ⟨slot, hslot, hnull⟩, h, rfl,
            fun _ => hdeclared⟩
        · cases h
      · next hnull =>
        obtain ⟨x, hx, h⟩ := bind_eq_ok.1 h
        obtain ⟨others, hrest, h⟩ := bind_eq_ok.1 h
        cases h
        have hencoded := underSegment_eq_ok.1 hx
        exact ⟨some x, others, .value hslot (Bool.eq_false_iff.2 hnull) hencoded, hrest, rfl,
          fun _ => hdeclared⟩

/-- Every entry of a record is written for one of its fields. -/
theorem exists_wrote {whole : Value} {fields : List Field} {entries : List (String × Value)}
    (h : encodeFields F ref own slots whole fields = .ok entries) :
    ∀ e ∈ entries, ∃ f ∈ fields, f.Wrote F slots (some e.2) := by
  induction fields generalizing entries with
  | nil =>
      rw [encodeFields] at h
      cases h
      exact List.forall_mem_nil _
  | cons f rest ih =>
      obtain ⟨item, others, hwritten, hrest, rfl, _⟩ := encodeFields_cons_inv h
      have hothers : ∀ e ∈ others, ∃ g ∈ f :: rest, g.Wrote F slots (some e.2) := fun e he => by
        obtain ⟨g, hg, hwrote⟩ := ih hrest e he
        exact ⟨g, List.mem_cons_of_mem f hg, hwrote⟩
      cases item with
      | none => exact hothers
      | some x => exact List.forall_mem_cons.2 ⟨⟨f, List.mem_cons_self, hwritten⟩, hothers⟩

/-- The entries of a record are what is written for its fields. -/
theorem wrote_of_encodeFields {whole : Value} {fields : List Field}
    {entries : List (String × Value)} (nodup : (fields.map (·.wire)).Nodup)
    (h : encodeFields F ref own slots whole fields = .ok entries) :
    (∀ f ∈ fields, f.Wrote F slots (Value.lookup entries f.wire)) ∧
      ∀ k ∉ fields.map (·.wire), Value.lookup entries k = none := by
  induction fields generalizing entries with
  | nil =>
      rw [encodeFields] at h
      cases h
      exact ⟨List.forall_mem_nil _, fun _ _ => rfl⟩
  | cons f rest ih =>
      rw [List.map_cons, List.nodup_cons] at nodup
      obtain ⟨item, others, hwritten, hrest, rfl, _⟩ := encodeFields_cons_inv h
      obtain ⟨hwrote, hother⟩ := ih nodup.2 hrest
      -- The other fields have other keys, so that the entry of this one does not hide theirs.
      cases item with
      | none =>
          refine ⟨fun g hg => ?_, fun k hk => hother k fun hmem => hk (.tail _ hmem)⟩
          rcases List.mem_cons.1 hg with rfl | hg
          · exact (hother _ nodup.1).symm ▸ hwritten
          · exact hwrote g hg
      | some x =>
          rw [Option.map_some, Option.toList_some, List.singleton_append]
          refine ⟨fun g hg => ?_, fun k hk => ?_⟩
          · rcases List.mem_cons.1 hg with rfl | hg
            · rw [Value.lookup, if_pos rfl]
              exact hwritten
            · rw [Value.lookup, if_neg fun hwire =>
                nodup.1 (List.mem_map.2 ⟨g, hg, hwire.symm⟩)]
              exact hwrote g hg
          · rw [List.map_cons, List.mem_cons, not_or] at hk
            rw [Value.lookup, if_neg fun hwire => hk.1 hwire.symm]
            exact hother k hk.2

/-! ### Admitted values -/

theorem EnumShape.accept_wire {e : EnumShape} (h : e.accept v = .ok w) : w.IsWire := by
  obtain ⟨rfl, hadmits⟩ := accept_ok_iff.1 h
  obtain ⟨c, _, ⟨n, _, hn⟩ | ⟨s, _, hs⟩⟩ := Codes.exists_admitting hadmits
  · unfold Value.integer? at hn
    split at hn
    · exact .int _
    · exact .member nofun
    · cases hn
  · unfold Value.text? at hs
    split at hs
    · exact .text _
    · exact .member nofun
    · cases hs

/-- What is written is admitted where any value is. -/
theorem encode_wire (hF : F.Sound) {s : Shape} {v w : Value} (h : encode F v s = .ok w) :
    w.IsWire := by
  -- What is written gets smaller at items and entries; at null and in unions only the shape does.
  cases s with
  | primitive p =>
      rw [encode] at h
      exact (Primitive.accept_json h).isWire
  | enumeration e =>
      rw [encode] at h
      exact EnumShape.accept_wire h
  | nullable inner =>
      rw [encode] at h
      split at h
      · cases h
        exact .null
      · exact encode_wire (s := inner) hF h
  | sequence element =>
      obtain ⟨xs, ws, rfl, hws⟩ := encode_sequence_inv h
      refine .list fun x hx => ?_
      obtain ⟨y, _, hy⟩ := exists_of_forall₂ hws hx
      exact encode_wire hF hy
  | union alternatives =>
      obtain ⟨t, ht, h⟩ := encode_union_inv h
      exact encode_wire hF h
  | any =>
      cases v with
      | record own slots =>
          rw [encode] at h
          exact (dump_json _ _ h).isWire
      | _ =>
          rw [encode] at h
          · obtain ⟨_, hcheck, h⟩ := bind_eq_ok.1 h
            cases h
            exact Value.checkJson_iff.1 hcheck
          · rintro own slots ⟨⟩
  | record ref =>
      cases hfind : F.find? ref with
      | none =>
          rw [encode_record_unknown hfind h]
          exact .object (List.forall_mem_nil _)
      | some m =>
          obtain ⟨own, slots, entries, _, _, rfl, hentries, _⟩ :=
            encode_record_inv (hF.model hfind).1.keyed hfind h
          refine .object fun e he => ?_
          obtain ⟨f, _, hwrote⟩ := exists_wrote hentries e he
          rcases hwrote.item_inv with hnull | ⟨u, hu⟩
          · exact hnull ▸ .null
          · exact encode_wire hF hu
termination_by (sizeOf w, sizeOf s)
decreasing_by
  all_goals subst_vars
  · exact Prod.Lex.left _ _ (Value.sizeOf_lt_of_entry he)
  · exact Prod.Lex.right _ (Shape.sizeOf_lt_of_mem ht)
  · exact Prod.Lex.left _ _ (Value.sizeOf_lt_of_mem hx)
  · exact Prod.Lex.right _ (by simp +arith)

/-! ### Decoded records -/

/-- What is decoded for a field is decoded for its type, which may have null besides. -/
theorem FieldDecl.decode_type {d : FieldDecl} (hd : d.field.isOk = true) {item u : Value}
    (hitem : d.asField.item? w = some item)
    (hdecode : (decode F false item d.asField.shape).outcome = .ok u) :
    ∃ s, d.type.shape = .ok s ∧ (decode F false item s).outcome = .ok u := by
  rcases shape_type hd with hshape | ⟨hshape, hoptional⟩
  · exact ⟨_, hshape, hdecode⟩
  · refine ⟨_, hshape, ?_⟩
    rw [decode]
    split
    · next hnull =>
      -- A null that is not dropped is kept by the field, too.
      have hkept := (Field.item?_some_iff.1 hitem).2
      rw [hnull, hoptional, Bool.and_true, Bool.true_and, Bool.not_eq_false'] at hkept
      obtain ⟨inner, hinner⟩ := Shape.isNullable_iff.1 hkept
      rw [hinner, decode, if_pos hnull] at hdecode
      exact hdecode
    · exact hdecode

/-- Where a model needs a position, the one that is decoded is the one that validation found. -/
theorem Model.place_decoded (hF : F.Sound) (hm : m.Sound F) (hw : w.IsWire) {name : String}
    {decodedSlots : List (Slot Value)} (hneeds : m.Needs name F.isPositional)
    (hvalid : fitFields F m.byName w m.fields = .ok ([], slots))
    (hmade : fitFields F m.byName (.object (m.entries (Model.decoded F false w))) m.fields =
      .ok ([], decodedSlots)) :
    ∃ p, (∃ v, Value.attribute? decodedSlots name = some v ∧ v.IsAt p) ∧
      ∃ v, Value.attribute? slots name = some v ∧ v.IsAt p := by
  obtain ⟨d, hd, ref, rfl, hwire, hnone, htype, hshape, hpos⟩ := hm.keyed.positional hneeds
  obtain ⟨_, n, heq, hn, _⟩ := Family.isPositional_inv hpos
  cases heq
  obtain ⟨v, r, hv, hr, hattribute⟩ :=
    FieldDecl.taken_record hm.keyed.names hd (hwire.trans rfl) hnone htype hn hvalid
  obtain ⟨u, q, hu, hq, hattribute'⟩ :=
    FieldDecl.taken_record hm.keyed.names hd (hwire.trans rfl) hnone htype hn hmade
  obtain ⟨p, hp, hunique⟩ := hw.placed hF hpos hv hr
  rw [at?_entries hm.keyed hd] at hu
  obtain ⟨item, hitem, _, hdecode⟩ := decoded_inv hm.keyed hd hu
  rw [hwire] at hitem
  cases hv.symm.trans hitem
  rw [hshape] at hdecode
  obtain ⟨p', hp', hdenotes⟩ := decode_position hF hpos hdecode
  cases hunique p' hdenotes
  refine ⟨p, ⟨q.value, hattribute', ?_⟩, r.value, hattribute, hp⟩
  obtain ⟨own, ts, rfl, hrest⟩ := hp'
  rw [fit_record_inv hq]
  exact ⟨own, ts, rfl, hrest⟩

/-- Of an object that validation takes, the decoded fields make a record. -/
theorem Model.make_decoded (hF : F.Sound) (hm : m.Sound F) (hw : w.IsWire)
    (hobject : w.isObject = true) (hdecoded : ∀ d ∈ m.fields, d.asField.IsDecoded F false w)
    (hvalid : m.validate F w = .ok v) :
    ∃ u, m.make F (m.entries (Model.decoded F false w)) = .ok u := by
  rw [m.validate_eq hobject] at hvalid
  obtain ⟨⟨vs, slots⟩, hfit, hcomplete⟩ := bind_eq_ok.1 hvalid
  obtain ⟨rfl, _, hchecked⟩ := complete_inv hcomplete
  have htaken : ∀ d ∈ m.fields,
      d.IsTaken F m.byName (.object (m.entries (Model.decoded F false w))) := by
    intro d hd
    have hshaped := hm.keyed.shaped d hd
    obtain ⟨key, hkey⟩ := given?_entries (Model.decoded F false w) hm.keyed hd
    unfold FieldDecl.IsTaken
    rw [hm.keyed.byName, hkey]
    cases hu : Model.decoded F false w d with
    | none =>
        have hfield := hdecoded d hd
        unfold Field.IsDecoded at hfield
        split at hfield
        · rw [FieldDecl.asField_optional hshaped] at hfield
          exact hfield
        · next item hitem =>
          obtain ⟨_, u, hdecode⟩ := hfield
          unfold decoded Field.value? at hu
          rw [hitem, Option.bind_some, hdecode] at hu
          cases hu
    | some u =>
        obtain ⟨item, hat, hitem, hdecode⟩ := decoded_inv hm.keyed hd hu
        obtain ⟨s, hshape, hread⟩ := FieldDecl.decode_type hshaped hitem hdecode
        have hgiven : d.given? m.byName w = some (d.wire, item) := by
          unfold FieldDecl.given?
          rw [hat]
        have hwire := (fitFields_slot hm.keyed.names hfit hd (fit_loud d.type hshape)).1
        unfold FieldDecl.IsTaken at hwire
        rw [hgiven] at hwire
        exact fit_read hF d.type hshape (hm.types d hd) (hw.at? hat) hread (.inr hwire)
  obtain ⟨made, hmade⟩ : ∃ made, fitFields F m.byName
      (.object (m.entries (Model.decoded F false w))) m.fields = .ok ([], made) :=
    ⟨_, fitFields_ok htaken⟩
  refine ⟨.record m.ref made, ?_⟩
  unfold make
  rw [m.validate_eq rfl, hmade, ok_bind]
  refine complete_ok fun hordered => ?_
  obtain ⟨p, ⟨start, hstart, hp⟩, start', hstart', hp'⟩ :=
    place_decoded hF hm hw (hm.start hordered) hfit hmade
  obtain ⟨q, ⟨stop, hstop, hq⟩, stop', hstop', hq'⟩ :=
    place_decoded hF hm hw (hm.stop hordered) hfit hmade
  have horder := (checkOrder_positions hstart' hstop' hp' hq').2.1.1 (hchecked hordered)
  exact (checkOrder_positions hstart hstop hp hq).2.1.2 horder

/-! ### Written values -/

/-- What is written for the fields of a record. -/
theorem encode_record_wrote (hm : m.Keyed) (hfind : F.find? ref = some m)
    (h : encode F v (.record ref) = .ok w) :
    ∃ own slots, v = .record own slots ∧ w.isObject = true ∧
      ∀ d ∈ m.fields, d.asField.Wrote F slots (w.at? d.wire) := by
  obtain ⟨own, slots, entries, _, rfl, rfl, hentries, _⟩ := encode_record_inv hm hfind h
  refine ⟨own, slots, rfl, rfl, fun d hd => ?_⟩
  rw [← FieldDecl.asField_wire (hm.shaped d hd)]
  exact (wrote_of_encodeFields hm.fieldWires hentries).1 _ (List.mem_map_of_mem hd)

/-- What is written for a field is not refused, if what is written for its attribute is not. -/
theorem FieldDecl.not_refused_of_wrote (hF : F.Sound) {d : FieldDecl} (hd : d.field.isOk = true)
    (hnull : d.asField.shape.takesNull = false)
    (hwrote : d.asField.Wrote F slots (w.at? d.wire))
    (hvalue : ∀ u item, w.at? d.wire = some item → encode F u d.asField.shape = .ok item →
      ¬Refused (decode F false item d.asField.shape).outcome) :
    ¬d.asField.IsRefused F false w := by
  unfold Field.IsRefused Field.item?
  rw [asField_wire hd]
  generalize w.at? d.wire = found at hwrote hvalue
  cases hwrote with
  | nothing optional absent =>
      show ¬d.asField.optional = false
      rw [optional]
      exact nofun
  | null nullable found isNull =>
      obtain ⟨inner, hshape⟩ := Shape.isNullable_iff.1 nullable
      rw [Option.filter_some, if_pos (by rw [nullable]; rfl)]
      rintro (⟨_, hkept⟩ | hrefused)
      · cases nullable.symm.trans hkept
      · rw [hshape, decode] at hrefused
        exact hrefused.ne_ok .null rfl
  | @value slot item hfound present encoded =>
      have hpresent : item.isNull = false := by
        rw [Bool.eq_false_iff]
        intro hisNull
        rw [Value.isNull_iff] at hisNull
        subst hisNull
        cases (isNull_of_encode hF hnull encoded).symm.trans present
      rw [Option.filter_some, if_pos (by rw [hpresent]; rfl)]
      rintro (⟨hisNull, _⟩ | hrefused)
      · cases hpresent.symm.trans hisNull
      · exact hvalue slot.value item rfl encoded hrefused

/-- What is written for a value is never refused. -/
theorem not_refused_of_encode (hF : F.Sound) (hnulls : F.LacksNull) {s : Shape} {v w : Value}
    (h : encode F v s = .ok w) : ¬Refused (decode F false w s).outcome := by
  -- The wire value gets smaller at items and entries; at null and in unions only the shape does.
  cases s with
  | primitive p =>
      rw [encode] at h
      have hconforms : Conforms F (.primitive p) w := Primitive.accept_conforms h
      rw [decode, Traced.outcome_of, Primitive.accept_of_conforms hconforms]
      exact fun hrefused => hrefused.ne_ok w rfl
  | enumeration e =>
      rw [encode] at h
      obtain ⟨rfl, hadmits⟩ := EnumShape.accept_ok_iff.1 h
      rw [decode, Traced.outcome_of, EnumShape.decode, EnumShape.accept_ok_iff.2 ⟨rfl, hadmits⟩]
      exact fun hrefused => hrefused.ne_ok _ rfl
  | any =>
      rw [decode, Traced.outcome_of, Value.checkJson_iff.2 (encode_wire hF h)]
      exact fun hrefused => hrefused.ne_ok w rfl
  | nullable inner =>
      rw [decode]
      split
      · exact fun hrefused => hrefused.ne_ok Value.null rfl
      · next hnull =>
        rw [encode] at h
        split at h
        · cases h
          exact absurd rfl hnull
        · exact not_refused_of_encode (s := inner) hF hnulls h
  | sequence element =>
      obtain ⟨xs, ws, rfl, hws⟩ := encode_sequence_inv h
      intro hrefused
      rw [decode, Traced.outcome_bind] at hrefused
      rcases refused_bind_inv hrefused with hitems | ⟨vs, _, hdone⟩
      · obtain ⟨x, hx, hitem⟩ := refused_of_items hitems
        obtain ⟨y, _, hy⟩ := exists_of_forall₂ hws hx
        exact not_refused_of_encode hF hnulls hy hitem
      · exact hdone.ne_ok (.list vs) rfl
  | union alternatives =>
      obtain ⟨t, ht, h⟩ := encode_union_inv h
      exact fun hrefused => not_refused_of_encode hF hnulls h (refused_of_union hrefused t ht)
  | record ref =>
      have hw := encode_wire hF h
      cases hfind : F.find? ref with
      | none =>
          cases encode_record_unknown hfind h
          rw [decode, hfind]
          exact fun hrefused => hrefused.ne_ok (.record ref []) rfl
      | some m =>
          have hm := (hF.model hfind).1
          obtain ⟨_, _, entries, u, _, rfl, _, hvalid⟩ := encode_record_inv hm.keyed hfind h
          obtain ⟨own, slots, _, hobject, hwrote⟩ := encode_record_wrote hm.keyed hfind h
          intro hrefused
          rw [decode_record hm.keyed hfind hobject] at hrefused
          rcases refused_bind_inv hrefused with hfields | ⟨values, hvalues, hassemble⟩
          · obtain ⟨f, hf, hfield⟩ := refused_of_fields hfields
            obtain ⟨d, hd, rfl⟩ := List.mem_map.1 hf
            refine FieldDecl.not_refused_of_wrote hF (hm.keyed.shaped d hd)
              (hnulls m (Family.mem_of_find? hfind).1 d hd) (hwrote d hd)
              (fun u item hat hencode => ?_) hfield
            exact not_refused_of_encode hF hnulls hencode
          · rw [decodeFields_ok_iff, Model.entries_decoded hm.keyed, List.forall_mem_map] at hvalues
            obtain ⟨hdecoded, rfl⟩ := hvalues
            obtain ⟨made, hmade⟩ := Model.make_decoded hF hm hw hobject hdecoded hvalid
            exact hassemble.ne_ok made (Model.assemble_ok_iff.2 hmade)
termination_by (sizeOf w, sizeOf s)
decreasing_by
  all_goals subst_vars
  · exact Prod.Lex.left _ _ (Value.sizeOf_lt_of_at? hat)
  · exact Prod.Lex.right _ (Shape.sizeOf_lt_of_mem ht)
  · exact Prod.Lex.left _ _ (Value.sizeOf_lt_of_mem hx)
  · exact Prod.Lex.right _ (by simp +arith)

/-- What is written for a value is read again, unless an integer in it is too large for the float
that it is met with. -/
theorem decode_written (hF : F.Sound) (hnulls : F.LacksNull) {s : Shape}
    (h : encode F v s = .ok w) :
    (∃ u, (decode F false w s).outcome = .ok u) ∨
      (Overflows F w s ∧ (decode F false w s).outcome = .error .overflow) :=
  (decode_tried hF s (encode_wire hF h)).resolve (not_refused_of_encode hF hnulls h)

/-- Where there are no floats, what is written for any value can be read again, as far as it is
JSON. -/
theorem decode_of_encode (hF : F.Regular) (hnulls : F.LacksNull) {s : Shape}
    (hs : s.isRegular F = true) (h : encode F v s = .ok w) (hw : w.IsJson) :
    ∃ u, (decode F false w s).outcome = .ok u :=
  (decode_sound hF hs hw).decided.resolve_right (not_refused_of_encode hF.sound hnulls h)

end EditorProtocol
