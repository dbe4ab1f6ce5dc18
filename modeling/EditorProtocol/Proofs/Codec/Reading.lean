import EditorProtocol.Proofs.Codec.Attribution
import EditorProtocol.Proofs.Codec.Soundness

/-!
Reading whatever stands on the wire. Over a sound family every admitted value is decoded or refused,
or else an integer in it is too large for the float that it is met with; no model, order or bound
makes decoding fail in another way.
-/

namespace EditorProtocol

variable {F : Family} {exact : Bool} {ref : ModelRef} {m : Model} {v w : Value}

/-! ### Overflows -/

/-- An integer that no float is near to stands where a shape has a float. -/
inductive Overflows (F : Family) : Value → Shape → Prop
  | float {p : Primitive} {w : Value} {n : Int} (kind : p.kind = .float)
      (integer : w.integer? = some n) (large : Double.ofInt? n = none) :
      Overflows F w (.primitive p)
  | nullable {inner : Shape} {w : Value} (present : Overflows F w inner) :
      Overflows F w (.nullable inner)
  | item {element : Shape} {xs : List Value} {x : Value} (item : x ∈ xs)
      (large : Overflows F x element) : Overflows F (.list xs) (.sequence element)
  | alternative {alternatives : List Shape} {s : Shape} {w : Value} (listed : s ∈ alternatives)
      (large : Overflows F w s) : Overflows F w (.union alternatives)
  | field {ref : ModelRef} {m : Model} {d : FieldDecl} {w item : Value}
      (model : F.find? ref = some m) (declared : d ∈ m.fields) (found : w.at? d.wire = some item)
      (large : Overflows F item d.asField.shape) : Overflows F w (.record ref)

/-- A value or a mismatch came out, or an overflow that there is a cause for. -/
def Tried {α : Type} (large : Prop) (r : Except Fault α) : Prop :=
  Decided r ∨ (large ∧ r = .error .overflow)

/-- What was tried and not refused gave a value, or overflowed. -/
theorem Tried.resolve {α : Type} {large : Prop} {r : Except Fault α} (h : Tried large r)
    (hrefused : ¬Refused r) : (∃ a, r = .ok a) ∨ (large ∧ r = .error .overflow) :=
  Or.imp_left (fun h => h.resolve_right hrefused) h

/-! ### Decoded values -/

/-- A record is decoded from the values of its fields, which validation took. -/
theorem decode_record_inv (hm : m.Keyed) (hfind : F.find? ref = some m)
    (h : (decode F exact w (.record ref)).outcome = .ok v) :
    (∀ d ∈ m.fields, d.asField.IsDecoded F exact w) ∧
      ∃ slots, v = .record m.ref slots ∧
        fitFields F m.byName (.object (m.entries (Model.decoded F exact w))) m.fields =
          .ok ([], slots) := by
  rw [decode_record hm hfind (isObject_of_decode h)] at h
  obtain ⟨values, hvalues, h⟩ := bind_eq_ok.1 h
  rw [decodeFields_ok_iff, Model.entries_decoded hm, List.forall_mem_map] at hvalues
  obtain ⟨hdecoded, rfl⟩ := hvalues
  refine ⟨hdecoded, ?_⟩
  obtain ⟨slots, hfields, hcomplete⟩ := Model.assemble_inv h
  exact ⟨slots, (Model.complete_inv hcomplete).2.1, hfields⟩

/-- A field that a record holds a value for has it from the wire. -/
theorem Model.decoded_inv (hm : m.Keyed) {d : FieldDecl} (hd : d ∈ m.fields)
    (h : Model.decoded F exact w d = some v) :
    ∃ item, w.at? d.wire = some item ∧ d.asField.item? w = some item ∧
      (decode F exact item d.asField.shape).outcome = .ok v := by
  obtain ⟨item, hitem, hdecode⟩ := Field.value?_inv h
  have hat := (Field.item?_some_iff.1 hitem).1
  rw [FieldDecl.asField_wire (hm.shaped d hd)] at hat
  exact ⟨item, hat, hitem, hdecode⟩

/-- A field that must be there is decoded from its value on the wire. -/
theorem Model.decoded_needed (hm : m.Keyed) {d : FieldDecl} (hd : d ∈ m.fields)
    (hnone : d.fallback.isNone = true) (h : d.asField.IsDecoded F exact w) :
    ∃ v, Model.decoded F exact w d = some v := by
  unfold Field.IsDecoded at h
  unfold Model.decoded Field.value?
  split at h
  · rw [FieldDecl.asField_optional (hm.shaped d hd), Option.isNone_iff_eq_none.1 hnone] at h
    cases h
  · next item hitem =>
    obtain ⟨_, v, hv⟩ := h
    exact ⟨v, by rw [hitem, Option.bind_some, hv]; rfl⟩

theorem EnumShape.decode_tame {e : EnumShape} (hw : w.IsWire) (h : e.decode w = .ok v) :
    v.IsTame := by
  unfold decode at h
  obtain ⟨code, hcode, hv⟩ := bind_eq_ok.1 h
  obtain ⟨rfl, _⟩ := accept_ok_iff.1 hcode
  cases hv
  cases e.memberOf? code with
  | none => exact .wire hw
  | some k => exact .member k

/-- An admitted value is decoded to records, members and admitted values. -/
theorem decode_tame (hF : F.Sound) {s : Shape} {w v : Value} (hw : w.IsWire)
    (h : (decode F exact w s).outcome = .ok v) : v.IsTame := by
  cases s with
  | primitive p =>
      rw [decode, Traced.outcome_of] at h
      exact .wire (Primitive.accept_json h).isWire
  | enumeration e =>
      rw [decode, Traced.outcome_of] at h
      exact EnumShape.decode_tame hw h
  | any =>
      rw [decode, Traced.outcome_of] at h
      obtain ⟨_, _, h⟩ := bind_eq_ok.1 h
      cases h
      exact .wire hw
  | nullable inner =>
      rw [decode] at h
      split at h
      · cases h
        exact .wire .null
      · exact decode_tame (s := inner) hF hw h
  | sequence element =>
      obtain ⟨xs, vs, rfl, rfl, hvs⟩ := decode_sequence_inv h
      cases hw with
      | list items =>
          refine .list fun u hu => ?_
          obtain ⟨x, hx, hdecode⟩ := exists_of_forall₂ hvs hu
          exact decode_tame hF (items x hx) hdecode
  | union alternatives =>
      obtain ⟨s, hs, h⟩ := decode_union_inv h
      exact decode_tame hF hw h
  | record ref =>
      cases hfind : F.find? ref with
      | none =>
          cases decode_record_unknown hfind h
          exact .record ref []
      | some m =>
          obtain ⟨_, slots, rfl, _⟩ := decode_record_inv (hF.model hfind).1.keyed hfind h
          exact .record m.ref slots
termination_by (sizeOf w, sizeOf s)
decreasing_by
  all_goals subst_vars
  · exact Prod.Lex.right _ (Shape.sizeOf_lt_of_mem hs)
  · exact Prod.Lex.left _ _ (Value.sizeOf_lt_of_mem hx)
  · exact Prod.Lex.right _ (by simp +arith)

/-! ### Positions -/

/-- What is decoded for a coordinate is the integer on the wire. -/
theorem decoded_coordinate (hm : m.Keyed) (hdecoded : ∀ d ∈ m.fields, d.asField.IsDecoded F exact w)
    {name : String} (h : m.Needs name TypeExpr.isInteger) :
    ∃ n : Int, (∃ x, w.at? name = some x ∧ x.integer? = some n) ∧
      (Value.object (m.entries (Model.decoded F exact w))).at? name = some (.int n) := by
  obtain ⟨d, hd, rfl, hwire, hnone, hinteger⟩ := h
  obtain ⟨u, hu⟩ := Model.decoded_needed hm hd hnone (hdecoded d hd)
  obtain ⟨x, hx, _, hdecode⟩ := Model.decoded_inv hm hd hu
  obtain ⟨p, hp, hshape⟩ := FieldDecl.integer_shape (hm.shaped d hd) hinteger
  rw [hwire] at hx
  rw [hshape, decode, Traced.outcome_of] at hdecode
  cases Primitive.accepts_of_accept hdecode with
  | @integer _ _ n hn => exact ⟨n, ⟨x, hx, hn⟩, by rw [Model.at?_entries hm hd, hu]⟩
  | null kind => cases hp.symm.trans kind
  | text kind => cases hp.symm.trans kind
  | boolean kind => cases hp.symm.trans kind
  | float kind => cases hp.symm.trans kind
  | nearest kind => cases hp.symm.trans kind

/-- A record of the model of positions is decoded to the position that stands on the wire. -/
theorem decode_position (hF : F.Sound) (hpos : F.isPositional (.model ref) = true)
    (h : (decode F exact w (.record ref)).outcome = .ok v) : ∃ p, v.IsAt p ∧ w.Denotes p := by
  obtain ⟨_, m, heq, hfind, _, hline, hcharacter⟩ := Family.isPositional_inv hpos
  cases heq
  have hm := (hF.model hfind).1.keyed
  obtain ⟨hdecoded, slots, rfl, hfields⟩ := decode_record_inv hm hfind h
  obtain ⟨p, hp, hunique⟩ := fitFields_position hfind hm.names hpos hfields
  obtain ⟨l, hl, hline⟩ := decoded_coordinate hm hdecoded hline
  obtain ⟨c, hc, hcharacter⟩ := decoded_coordinate hm hdecoded hcharacter
  cases hunique ⟨l, c⟩ ⟨⟨_, hline, rfl⟩, _, hcharacter, rfl⟩
  exact ⟨⟨l, c⟩, hp, hl, hc⟩

/-! ### Outcomes -/

/-- A record that is one of the model is taken for itself. -/
theorem fit_record_inv {own : ModelRef} {slots : List (Slot Value)} {r : Fitted}
    (h : (TypeExpr.model ref).fit F [] (.record own slots) = .ok r) :
    r.value = .record own slots := by
  rw [TypeExpr.fit] at h
  split at h
  · exact congrArg Fitted.value (TypeExpr.eq_of_bounded h)
  · cases h

/-- A record is made of tame values, or they break rules, if there are positions where the model has
them. -/
theorem Model.make_answered (hF : F.Sound) (hm : m.Sound F) {given : FieldDecl → Option Value}
    (htame : ∀ d ∈ m.fields, ∀ v, given d = some v → v.IsTame)
    (hplaced : ∀ d ∈ m.fields, ∀ ref, d.type = .model ref → F.isPositional (.model ref) = true →
      ∀ v, given d = some v → ∃ p, v.IsAt p) :
    Answered (m.make F (m.entries given)) := by
  unfold make
  rw [m.validate_eq rfl]
  have hfields : ∀ d ∈ m.fields, ∀ key x,
      d.given? m.byName (.object (m.entries given)) = some (key, x) →
        Answered (d.type.fit F [] x) := by
    intro d hd key x hgiven
    rw [hm.keyed.byName] at hgiven
    obtain ⟨k, hk⟩ := given?_entries given hm.keyed hd
    obtain ⟨u, hu, heq⟩ := Option.map_eq_some_iff.1 (hk.symm.trans hgiven)
    cases heq
    exact fit_answered hF d.type (hm.types d hd) (htame d hd x hu)
  obtain ⟨vs, slots, htaken⟩ := fitFields_answered hfields
  rw [htaken, ok_bind]
  refine complete_answered fun hvs hordered => ?_
  subst hvs
  refine checkOrder_answered hm.keyed.names (hm.start hordered) (hm.stop hordered)
    (fun d hd ref htype hpos x r hat hr => ?_) htaken
  rw [at?_entries hm.keyed hd] at hat
  obtain ⟨p, hp⟩ := hplaced d hd ref htype hpos x hat
  obtain ⟨own, ts, rfl, hrest⟩ := hp
  exact ⟨p, own, ts, fit_record_inv hr, hrest⟩

/-- The record of decoded fields is made, or they break rules. -/
theorem Model.make_decoded_answered (hF : F.Sound) (hm : m.Sound F) (hw : w.IsWire) :
    Answered (m.make F (m.entries (Model.decoded F exact w))) := by
  refine make_answered hF hm (fun d hd v hv => ?_) fun d hd ref htype hpos v hv => ?_
  · obtain ⟨item, hat, _, hdecode⟩ := decoded_inv hm.keyed hd hv
    exact decode_tame hF (hw.at? hat) hdecode
  · obtain ⟨item, _, _, hdecode⟩ := decoded_inv hm.keyed hd hv
    rw [FieldDecl.record_shape (hm.keyed.shaped d hd) htype] at hdecode
    exact (decode_position hF hpos hdecode).imp fun p hp => hp.1

/-- Over a sound family, the only fault of decoding is an integer that is too large for a float. -/
theorem FaultAt.overflows (hF : F.Sound) (hw : w.IsWire) {s : Shape} {f : Fault}
    (h : FaultAt F exact w s f) : f = .overflow ∧ Overflows F w s := by
  induction h with
  | overflow kind integer large => exact ⟨rfl, .float kind integer large⟩
  | @definition _ ref e _ fields_eq =>
      cases hfind : F.find? ref with
      | none =>
          rw [Family.fields, hfind] at fields_eq
          cases fields_eq
      | some m =>
          cases fields_eq.symm.trans ((hF.model hfind).1.keyed.family_fields hfind)
  | @validation w _ m _ _ _ model fields_eq decoded made =>
      have hm := (hF.model model).1
      cases fields_eq.symm.trans (hm.keyed.family_fields model)
      rw [decodeFields_ok_iff, Model.entries_decoded hm.keyed] at decoded
      obtain ⟨_, rfl⟩ := decoded
      have hanswered : Answered (m.make F (m.entries (Model.decoded F exact w))) :=
        Model.make_decoded_answered hF hm hw
      rw [made] at hanswered
      cases hanswered
  | nullable _ ih => exact (ih hw).imp_right .nullable
  | item mem _ ih =>
      cases hw with
      | list items => exact (ih (items _ mem)).imp_right (.item mem)
  | alternative listed _ ih => exact (ih hw).imp_right (.alternative listed)
  | @field w item ref _ g _ fields_eq mem found _ ih =>
      cases hfind : F.find? ref with
      | none =>
          rw [Family.fields, hfind] at fields_eq
          cases fields_eq
          cases mem
      | some m =>
          have hm := (hF.model hfind).1.keyed
          cases fields_eq.symm.trans (hm.family_fields hfind)
          obtain ⟨d, hd, rfl⟩ := List.mem_map.1 mem
          have hat := FieldDecl.asField_wire (hm.shaped d hd) ▸ found
          exact (ih (hw.at? found)).imp_right (.field hfind hd hat)

/-- An admitted value is decoded or refused, or an integer in it overflows. -/
theorem decode_tried (hF : F.Sound) (s : Shape) {w : Value} (hw : w.IsWire) :
    Tried (Overflows F w s) (decode F exact w s).outcome := by
  rcases decode_attributed F exact w s with hdecided | ⟨f, hf, hcause⟩
  · exact .inl hdecided
  · obtain ⟨rfl, hlarge⟩ := hcause.overflows hF hw
    exact .inr ⟨hlarge, hf⟩

end EditorProtocol
