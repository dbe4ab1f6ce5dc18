import EditorProtocol.Proofs.Codec.Assembling
import EditorProtocol.Proofs.Shape.Reachable

/-!
Decoding is sound. A JSON value is either decoded or refused under a regular shape, and what it
decodes to conforms to the shape and has nothing left to settle.
-/

namespace EditorProtocol

variable {F : Family} {exact : Bool} {v w : Value}

theorem Codes.isNull_of_admits {codes : Codes} (h : codes.admits v = true) :
    v.isNull = false := by
  cases v with
  | null => cases codes <;> cases h
  | _ => rfl

/-! ### Matches -/

/-- A wire value is decoded or refused, and what it is decoded to conforms to the shape, has nothing
left to settle and is null exactly if the wire value is. -/
structure DecodesSoundly (F : Family) (exact : Bool) (w : Value) (s : Shape) : Prop where
  decided : Decided (decode F exact w s).outcome
  sound : ∀ v, (decode F exact w s).outcome = .ok v →
    Conforms F s v ∧ v.settled F = v ∧ v.isNull = w.isNull

/-- An array is decoded soundly if its items are. -/
theorem decode_list_of_items {element : Shape} {xs : List Value}
    (hitem : ∀ x ∈ xs, DecodesSoundly F exact x element) :
    DecodesSoundly F exact (.list xs) (.sequence element) := by
  have hdecided := decodeItems_decided (fun x hx => (hitem x hx).decided) 0
  constructor
  · rw [decode, Traced.outcome_bind]
    exact hdecided.bind fun vs _ => decided_ok _
  · intro v hv
    rw [decode, Traced.outcome_bind] at hv
    obtain ⟨vs, hvs, hv⟩ := bind_eq_ok.1 hv
    cases hv
    have hsound : ∀ v ∈ vs, Conforms F element v ∧ v.settled F = v := by
      intro v hv
      obtain ⟨x, hx, hdecode⟩ := exists_of_forall₂ (decodeItems_ok_iff.1 hvs) hv
      obtain ⟨hconforms, hsettled, _⟩ := (hitem x hx).sound v hdecode
      exact ⟨hconforms, hsettled⟩
    refine ⟨.list fun v hv => (hsound v hv).1, ?_, rfl⟩
    rw [Value.settled_list, List.map_congr_left fun v hv => (hsound v hv).2, List.map_id']

/-! ### Decoded records -/

section Record

variable {ref : ModelRef} {m : Model}

/-- What the fields of a model decode to, by their declarations. -/
def Model.decoded (F : Family) (exact : Bool) (w : Value) (d : FieldDecl) : Option Value :=
  d.asField.value? F exact w

theorem Model.entries_decoded (hm : m.Keyed) :
    ((m.fields.map FieldDecl.asField).filterMap fun f => (f.value? F exact w).map (f.name, ·)) =
      m.entries (Model.decoded F exact w) := by
  rw [List.filterMap_map]
  exact List.filterMap_congr fun d hd => by
    show ((d.asField.value? F exact w).map (d.asField.name, ·)) = _
    rw [FieldDecl.asField_name (hm.shaped d hd)]
    rfl

/-- Attributes made of settled values are settled, if null is given only where it is kept. -/
theorem Model.arrange_slots (hm : m.Regular F) {given : FieldDecl → Option Value}
    (h : ∀ d ∈ m.fields, ∀ v, given d = some v →
      v.settled F = v ∧ (v.isNull = true → d.asField.nullable = true)) :
    m.arrange (Value.settledSlots F (m.slots given)) = m.slots given := by
  have hsettle : ∀ d ∈ m.fields,
      (Value.slot? (Value.settledSlots F (m.slots given)) d.name).map d.settle =
        some (d.slotOf (given d)) := by
    intro d hd
    rw [Value.slot?_settledSlots, slot?_slots hm.keyed hd, Option.map_some,
      Option.map_some]
    unfold FieldDecl.settle FieldDecl.dropsNull Value.settledSlot
    cases hgiven : given d with
    | none =>
        show some (if _ then _ else _) = _
        split
        · rfl
        · rfl
    | some v =>
        obtain ⟨hsettled, hnull⟩ := h d hd v hgiven
        rw [FieldDecl.slotOf, hsettled, if_neg]
        rw [Bool.and_eq_true, Bool.and_eq_true]
        rintro ⟨hv, _, hdrops⟩
        rw [hnull hv] at hdrops
        cases hdrops
  unfold arrange
  rw [List.filterMap_congr hsettle]
  exact congrFun List.filterMap_eq_map m.fields

/-- The decoded fields of a record, given that what its fields hold is decoded soundly. -/
theorem Model.decoded_sound (hm : m.Regular F)
    (hdecoded : ∀ d ∈ m.fields, d.asField.IsDecoded F exact w)
    (hitem : ∀ d ∈ m.fields, ∀ item, w.at? d.wire = some item →
      DecodesSoundly F exact item d.asField.shape) :
    m.Filled F (Model.decoded F exact w) ∧
      ∀ d ∈ m.fields, ∀ v, Model.decoded F exact w d = some v →
        v.settled F = v ∧ (v.isNull = true → d.asField.nullable = true) := by
  have hvalue : ∀ d ∈ m.fields, (∃ v, Model.decoded F exact w d = some v ∧
      Conforms F d.asField.shape v ∧ v.settled F = v ∧
        (v.isNull = true → d.asField.nullable = true)) ∨
      (Model.decoded F exact w d = none ∧ d.asField.optional = true) := by
    intro d hd
    have hfield := hdecoded d hd
    unfold Field.IsDecoded at hfield
    unfold Model.decoded Field.value?
    split at hfield
    · next hitem =>
      rw [hitem]
      exact .inr ⟨rfl, hfield⟩
    · next item hfound =>
      obtain ⟨hnull, v, hv⟩ := hfield
      have hat := (Field.item?_some_iff.1 hfound).1
      rw [(hm.fields d hd).wire_eq] at hat
      obtain ⟨hconforms, hsettled, hisNull⟩ := (hitem d hd item hat).sound v hv
      rw [hfound]
      refine .inl ⟨v, ?_, hconforms, hsettled, fun h => hnull (hisNull ▸ h)⟩
      rw [Option.bind_some, hv]
      rfl
  refine ⟨⟨fun d hd v hv => ?_, fun d hd hnone => ?_⟩, fun d hd v hv => ?_⟩
  · rcases hvalue d hd with ⟨u, hu, hconforms, _⟩ | ⟨hnone, _⟩
    · rw [hu] at hv
      cases hv
      exact hconforms
    · rw [hnone] at hv
      cases hv
  · rcases hvalue d hd with ⟨u, hu, _⟩ | ⟨_, hoptional⟩
    · rw [hu] at hnone
      cases hnone
    · exact hoptional
  · rcases hvalue d hd with ⟨u, hu, _, hkept⟩ | ⟨hnone, _⟩
    · rw [hu] at hv
      cases hv
      exact hkept
    · rw [hnone] at hv
      cases hv

/-- A record with an attribute for each field, in declared order, conforms if they do. -/
theorem Conforms.of_forall₂ (hm : m.Regular F) (hfind : F.find? ref = some m)
    {slots : List (Slot Value)}
    (h : List.Forall₂ (fun d s => s.name = d.name ∧ s.Keeps d ∧
      (s.value ≠ .null → Conforms F d.asField.shape s.value)) m.fields slots)
    (horder : m.ordered = true → Slot.InOrder slots) :
    Conforms F (.record ref) (.record ref slots) := by
  have hslot : ∀ d ∈ m.fields, ∀ s ∈ slots, s.name = d.name →
      s.Keeps d ∧ (s.value ≠ .null → Conforms F d.asField.shape s.value) := by
    intro d hd s hs hname
    obtain ⟨e, he, hname', hrest⟩ := exists_of_forall₂ h hs
    cases hm.eq_of_name he hd (hname'.symm.trans hname)
    exact hrest
  refine .record hfind (fun d hd => ?_) (fun d hd s hs hname => (hslot d hd s hs hname).1)
    (fun d hd s hs hname => (hslot d hd s hs hname).2) horder
  obtain ⟨s, hs, hname, _⟩ := exists_of_forall₂ h.flip hd
  exact ⟨s, hs, hname⟩

/-- Conforming values of fields make a conforming record. -/
theorem Conforms.of_slots (hm : m.Regular F) (hfind : F.find? ref = some m)
    {given : FieldDecl → Option Value} (h : m.Filled F given)
    (hkept : ∀ d ∈ m.fields, ∀ v, given d = some v → v.isNull = true → d.asField.nullable = true)
    (horder : m.ordered = true → Slot.InOrder (m.slots given)) :
    Conforms F (.record ref) (.record ref (m.slots given)) := by
  refine .of_forall₂ hm hfind ?_ horder
  unfold Model.slots
  rw [List.forall₂_map_right_iff, List.forall₂_same]
  intro d hd
  refine ⟨d.slotOf_name _, ?_⟩
  cases hgiven : given d with
  | none =>
      refine ⟨(hm.fields d hd).fallback_of_optional (h.absent d hd hgiven), fun hnull => ?_⟩
      exact absurd rfl hnull
  | some v =>
      refine ⟨fun hv => .inr (hkept d hd v hgiven (Value.isNull_iff.2 hv)), fun _ => ?_⟩
      exact h.values d hd v hgiven

/-- A record is decoded or refused if the values of its fields are, and what it is decoded to has
what they are decoded to. -/
theorem decode_record_of_items (hF : F.Regular) (hm : F.find? ref = some m)
    (hobject : w.isObject = true)
    (hitem : ∀ d ∈ m.fields, ∀ item, w.at? d.wire = some item →
      DecodesSoundly F exact item d.asField.shape) :
    Decided (decode F exact w (.record ref)).outcome ∧
      ∀ v, (decode F exact w (.record ref)).outcome = .ok v ↔
        (∀ d ∈ m.fields, d.asField.IsDecoded F exact w) ∧
          v = .record ref (m.slots (Model.decoded F exact w)) ∧
          (m.ordered = true → Slot.InOrder (m.slots (Model.decoded F exact w))) := by
  obtain ⟨hregular, href⟩ := hF.model hm
  have hfields : Decided (decodeFields F exact w ref (m.fields.map FieldDecl.asField)).outcome := by
    refine decodeFields_decided fun f hf item hat => ?_
    obtain ⟨d, hd, rfl⟩ := List.mem_map.1 hf
    rw [(hregular.fields d hd).wire_eq] at hat
    exact (hitem d hd item hat).1
  -- Once all fields are decoded, nothing but the order of a start and an end can be amiss.
  have hassemble : (∀ d ∈ m.fields, d.asField.IsDecoded F exact w) →
      Decided (m.assemble F w (m.entries (Model.decoded F exact w))) ∧
        ∀ v, m.assemble F w (m.entries (Model.decoded F exact w)) = .ok v ↔
          v = .record ref (m.slots (Model.decoded F exact w)) ∧
          (m.ordered = true → Slot.InOrder (m.slots (Model.decoded F exact w))) := by
    intro hdecoded
    rw [← href]
    exact Model.assemble_iff hF hregular (Model.decoded_sound hregular hdecoded hitem).1
  have hvalues : ∀ values,
      (decodeFields F exact w ref (m.fields.map FieldDecl.asField)).outcome = .ok values ↔
        (∀ d ∈ m.fields, d.asField.IsDecoded F exact w) ∧
          values = m.entries (Model.decoded F exact w) := by
    intro values
    rw [decodeFields_ok_iff, Model.entries_decoded hregular.keyed, List.forall_mem_map]
  rw [decode_record hregular.keyed hm hobject]
  refine ⟨hfields.bind fun values h => ?_, fun v => bind_eq_ok.trans ?_⟩
  · obtain ⟨hdecoded, rfl⟩ := (hvalues values).1 h
    exact (hassemble hdecoded).1
  · constructor
    · rintro ⟨values, h, hv⟩
      obtain ⟨hdecoded, rfl⟩ := (hvalues values).1 h
      exact ⟨hdecoded, ((hassemble hdecoded).2 v).1 hv⟩
    · rintro ⟨hdecoded, hv⟩
      exact ⟨_, (hvalues _).2 ⟨hdecoded, rfl⟩, ((hassemble hdecoded).2 v).2 hv⟩

end Record

/-! ### Soundness -/

theorem Shape.areRegular_mem {alternatives : List Shape}
    (h : Shape.areRegular F alternatives = true) {s : Shape} (hs : s ∈ alternatives) :
    s.isRegular F = true := by
  induction alternatives with
  | nil => cases hs
  | cons t rest ih =>
      rw [areRegular, Bool.and_eq_true] at h
      rcases List.mem_cons.1 hs with rfl | hs
      · exact h.1
      · exact ih h.2 hs

/-- A JSON value is decoded or refused, and what it decodes to conforms to the shape. -/
theorem decode_sound (hF : F.Regular) {s : Shape} {w : Value} (hs : s.isRegular F = true)
    (hw : w.IsJson) : DecodesSoundly F exact w s := by
  -- The wire value gets smaller at items and entries; at null and in unions only the shape does.
  cases s with
  | primitive p =>
      have hfloat : p.kind ≠ .float := by simpa [Shape.isRegular] using hs
      have hdecode : (decode F exact w (.primitive p)).outcome = p.accept w := by
        rw [decode, Traced.outcome_of]
      refine ⟨hdecode ▸ p.accept_decided hfloat w, fun v hv => ?_⟩
      rw [hdecode] at hv
      obtain ⟨hconforms, _, heq⟩ := Primitive.accept_inv (F := F) hfloat hv
      rw [heq hw] at hconforms ⊢
      exact ⟨hconforms, hw.settled, rfl⟩
  | enumeration e =>
      rw [Shape.isRegular] at hs
      have hdecode : (decode F exact w (.enumeration e)).outcome = e.decode w := by
        rw [decode, Traced.outcome_of]
      refine ⟨hdecode ▸ e.decode_decided w, fun v hv => ?_⟩
      rw [hdecode] at hv
      obtain ⟨hconforms, hsettled, haccept⟩ := EnumShape.decode_inv (F := F) hs hw hv
      obtain ⟨rfl, hadmits⟩ := EnumShape.accept_ok_iff.1 haccept
      refine ⟨hconforms, hsettled, ?_⟩
      rw [Codes.isNull_of_admits hadmits]
      cases v with
      | null => exact absurd (Codes.isNull_of_admits hadmits) (by decide)
      | _ => rfl
  | any =>
      have hdecode : (decode F exact w .any).outcome = .ok w := by
        rw [decode, Traced.outcome_of, hw.checkJson]
        rfl
      refine ⟨hdecode ▸ decided_ok w, fun v hv => ?_⟩
      cases hdecode.symm.trans hv
      exact ⟨.any hw, hw.settled, rfl⟩
  | nullable inner =>
      rw [Shape.isRegular] at hs
      cases hnull : w.isNull with
      | true =>
          have hdecode : (decode F exact w (.nullable inner)).outcome = .ok .null := by
            rw [decode, hnull]
            rfl
          refine ⟨hdecode ▸ decided_ok Value.null, fun v hv => ?_⟩
          cases hdecode.symm.trans hv
          exact ⟨.absent inner, rfl, hnull.symm⟩
      | false =>
          have hdecode : decode F exact w (.nullable inner) = decode F exact w inner := by
            rw [decode, hnull]
            rfl
          obtain ⟨hdecided, hsound⟩ := decode_sound (w := w) hF hs hw
          refine ⟨hdecode ▸ hdecided, fun v hv => ?_⟩
          rw [hdecode] at hv
          obtain ⟨hconforms, hrest⟩ := hsound v hv
          exact ⟨.present hconforms, hrest⟩
  | sequence element =>
      rw [Shape.isRegular] at hs
      by_cases hlist : ∃ xs, w = .list xs
      · obtain ⟨xs, rfl⟩ := hlist
        have hitems : ∀ x ∈ xs, x.IsJson := by
          cases hw with
          | list items => exact items
        exact decode_list_of_items fun x hx => decode_sound hF hs (hitems x hx)
      · have hrefused : Refused (decode F exact w (.sequence element)).outcome := by
          rw [decode]
          · exact refused_refuse _ _ _
          · exact fun xs hxs => hlist ⟨xs, hxs⟩
        exact ⟨hrefused.decided, fun v hv => absurd hv (hrefused.ne_ok v)⟩
  | union alternatives =>
      rw [Shape.isRegular, Bool.and_eq_true] at hs
      obtain ⟨hdecided, hinv, _⟩ := decode_union fun s hmem =>
        (decode_sound hF (Shape.areRegular_mem hs.1 hmem) hw).1
      refine ⟨hdecided, fun v hv => ?_⟩
      obtain ⟨s, more, hmatches⟩ := hinv v hv
      obtain ⟨hmem, hv⟩ := mem_of_matchesOf hmatches
      obtain ⟨hconforms, hrest⟩ :=
        (decode_sound hF (Shape.areRegular_mem hs.1 hmem) hw).2 v hv
      exact ⟨.union hmem hconforms, hrest⟩
  | record ref =>
      obtain ⟨m, hm⟩ := Option.isSome_iff_exists.1 hs
      have hregular := (hF.model hm).1
      cases hobject : w.isObject with
      | false =>
          have hrefused : Refused (decode F exact w (.record ref)).outcome :=
            decode_record_strange hobject
          exact ⟨hrefused.decided, fun v hv => absurd hv (hrefused.ne_ok v)⟩
      | true =>
          have hitem : ∀ d ∈ m.fields, ∀ item, w.at? d.wire = some item →
              DecodesSoundly F exact item d.asField.shape :=
            fun d hd item hat => decode_sound hF (hregular.fields d hd).shape (hw.at? hat)
          obtain ⟨hdecided, hiff⟩ := decode_record_of_items hF hm hobject hitem
          refine ⟨hdecided, fun v hv => ?_⟩
          obtain ⟨hdecoded, rfl, horder⟩ := (hiff v).1 hv
          obtain ⟨hfilled, hkept⟩ := Model.decoded_sound hregular hdecoded hitem
          refine ⟨?_, ?_, ?_⟩
          · exact .of_slots hregular hm hfilled (fun d hd v hv => (hkept d hd v hv).2) horder
          · rw [Value.settled_record hm, Model.arrange_slots hregular hkept]
          · cases w with
            | null => cases hobject
            | _ => rfl
termination_by (sizeOf w, sizeOf s)
decreasing_by
  · exact Prod.Lex.left _ _ (Value.sizeOf_lt_of_at? hat)
  all_goals subst_vars
  · exact Prod.Lex.right _ (Shape.sizeOf_lt_of_mem hmem)
  · exact Prod.Lex.right _ (Shape.sizeOf_lt_of_mem hmem)
  · exact Prod.Lex.left _ _ (Value.sizeOf_lt_of_mem hx)
  · exact Prod.Lex.right _ (by simp +arith)

/-- An object is decoded to a record if each field is absent where it may be or decoded, and if
the record keeps its order. -/
theorem decode_record_iff (hF : F.Regular) {ref : ModelRef} {m : Model} (hm : F.find? ref = some m)
    (hw : w.IsJson) (hobject : w.isObject = true) :
    (decode F exact w (.record ref)).outcome = .ok v ↔
      (∀ d ∈ m.fields, d.asField.IsDecoded F exact w) ∧
        v = .record ref (m.slots (Model.decoded F exact w)) ∧
        (m.ordered = true → Slot.InOrder (m.slots (Model.decoded F exact w))) := by
  refine (decode_record_of_items hF hm hobject fun d hd item hat => ?_).2 v
  exact decode_sound hF ((hF.model hm).1.fields d hd).shape (hw.at? hat)

end EditorProtocol
