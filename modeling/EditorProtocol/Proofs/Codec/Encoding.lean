import EditorProtocol.Codec.Encode
import EditorProtocol.Proofs.Codec.Scalar

/-!
One step of encoding for each kind of shape. A union takes the first alternative that does not
refuse, and a value is refused by alternatives that can be told apart from its own. What is written
for a record is decided field by field.
-/

namespace EditorProtocol

variable {F : Family} {v w : Value}

/-! ### Sequences and unions -/

theorem encodeItems_ok_iff {element : Shape} {i : Nat} {xs ws : List Value} :
    encodeItems F i xs element = .ok ws ↔
      List.Forall₂ (fun x w => encode F x element = .ok w) xs ws := by
  induction xs generalizing i ws with
  | nil =>
      rw [encodeItems]
      constructor
      · intro h
        cases h
        exact .nil
      · intro h
        cases h
        rfl
  | cons x rest ih =>
      rw [encodeItems]
      constructor
      · intro h
        obtain ⟨u, hu, h⟩ := bind_eq_ok.1 h
        obtain ⟨us, hus, h⟩ := bind_eq_ok.1 h
        cases h
        exact .cons (underSegment_eq_ok.1 hu) (ih.1 hus)
      · intro h
        cases h with
        | cons hx hrest =>
            rw [hx, underSegment_ok, ok_bind, ih.2 hrest]
            rfl

/-- What is written for a sequence is what is written for its items. -/
theorem encode_sequence_inv {element : Shape} (h : encode F v (.sequence element) = .ok w) :
    ∃ xs ws, w = .list ws ∧ List.Forall₂ (fun x w => encode F x element = .ok w) xs ws := by
  rw [encode.eq_def] at h
  dsimp only at h
  split at h
  · next xs =>
    obtain ⟨ws, hws, h⟩ := bind_eq_ok.1 h
    exact ⟨xs, ws, (Except.ok.inj h).symm, encodeItems_ok_iff.1 hws⟩
  · next xs =>
    obtain ⟨ws, hws, h⟩ := bind_eq_ok.1 h
    exact ⟨xs, ws, (Except.ok.inj h).symm, encodeItems_ok_iff.1 hws⟩
  · cases h

/-- The alternatives before the one that takes a value refuse it. -/
theorem encodeFirst_ok {s : Shape} {before after : List Shape}
    (hbefore : ∀ t ∈ before, Refused (encode F v t)) (h : encode F v s = .ok w) :
    encodeFirst F v (before ++ s :: after) = .ok (.ok w) := by
  induction before with
  | nil => rw [List.nil_append, encodeFirst, h]
  | cons t rest ih =>
      obtain ⟨m, hm⟩ := hbefore t List.mem_cons_self
      rw [List.cons_append, encodeFirst, hm]
      dsimp only
      rw [ih fun u hu => hbefore u (List.mem_cons_of_mem t hu)]
      rfl

theorem encode_union {s : Shape} {before after : List Shape}
    (hbefore : ∀ t ∈ before, Refused (encode F v t)) (h : encode F v s = .ok w) :
    encode F v (.union (before ++ s :: after)) = .ok w := by
  rw [encode, encodeFirst_ok hbefore h]
  rfl

/-- Either all alternatives refuse a value, or the first one that does not decides. -/
theorem encodeFirst_cases (F : Family) (v : Value) (alternatives : List Shape) :
    (∀ s ∈ alternatives, Refused (encode F v s)) ∧
        (∃ failures, encodeFirst F v alternatives = .ok (.error failures)) ∨
      ∃ before s after, alternatives = before ++ s :: after ∧
        (∀ t ∈ before, Refused (encode F v t)) ∧ ¬Refused (encode F v s) ∧
          encodeFirst F v alternatives = (encode F v s).map .ok := by
  induction alternatives with
  | nil =>
      rw [encodeFirst]
      exact .inl ⟨List.forall_mem_nil _, [], rfl⟩
  | cons s rest ih =>
      rw [encodeFirst]
      -- The rest is looked at only after a refusal.
      cases hs : encode F v s with
      | ok w =>
          refine .inr ⟨[], s, rest, rfl, List.forall_mem_nil _, ?_, ?_⟩
          · rw [hs]
            exact fun h => h.ne_ok w rfl
          · rw [hs]
            rfl
      | error f =>
          cases f with
          | mismatch m =>
              dsimp only
              rcases ih with
                ⟨hrefused, failures, hfailed⟩ | ⟨before, t, after, rfl, hbefore, ht, hrest⟩
              · rw [hfailed]
                exact .inl ⟨List.forall_mem_cons.2 ⟨⟨m, hs⟩, hrefused⟩,
                  (s, m.reason) :: failures, rfl⟩
              · rw [hrest]
                refine .inr ⟨s :: before, t, after, rfl,
                  List.forall_mem_cons.2 ⟨⟨m, hs⟩, hbefore⟩, ht, ?_⟩
                cases encode F v t <;> rfl
          | _ =>
              refine .inr ⟨[], s, rest, rfl, List.forall_mem_nil _, ?_, ?_⟩
              · rw [hs]
                rintro ⟨m, ⟨⟩⟩
              · rw [hs]
                rfl

/-- A union refuses a value if all its alternatives do; else the first one that does not decides. -/
theorem encode_union_cases (F : Family) (v : Value) (alternatives : List Shape) :
    (∀ s ∈ alternatives, Refused (encode F v s)) ∧ Refused (encode F v (.union alternatives)) ∨
      ∃ before s after, alternatives = before ++ s :: after ∧
        (∀ t ∈ before, Refused (encode F v t)) ∧ ¬Refused (encode F v s) ∧
          encode F v (.union alternatives) = encode F v s := by
  rw [encode]
  rcases encodeFirst_cases F v alternatives with
    ⟨hrefused, failures, hfailed⟩ | ⟨before, s, after, hsplit, hbefore, hs, hfirst⟩
  · rw [hfailed]
    exact .inl ⟨hrefused, refused_refuse _ _ _⟩
  · refine .inr ⟨before, s, after, hsplit, hbefore, hs, ?_⟩
    rw [hfirst]
    cases encode F v s <;> rfl

theorem encodeFirst_inv {alternatives : List Shape}
    (h : encodeFirst F v alternatives = .ok (.ok w)) :
    ∃ s ∈ alternatives, encode F v s = .ok w := by
  induction alternatives with
  | nil =>
      rw [encodeFirst] at h
      cases h
  | cons s rest ih =>
      rw [encodeFirst] at h
      split at h
      · next u hu =>
        cases h
        exact ⟨s, List.mem_cons_self, hu⟩
      · obtain ⟨first, hfirst, h⟩ := bind_eq_ok.1 h
        cases first with
        | ok u =>
            cases h
            obtain ⟨t, ht, hu⟩ := ih hfirst
            exact ⟨t, List.mem_cons_of_mem s ht, hu⟩
        | error failures => cases h
      · cases h

/-- What a union writes, one of its alternatives does. -/
theorem encode_union_inv {alternatives : List Shape}
    (h : encode F v (.union alternatives) = .ok w) : ∃ s ∈ alternatives, encode F v s = .ok w := by
  rw [encode] at h
  obtain ⟨first, hfirst, h⟩ := bind_eq_ok.1 h
  cases first with
  | ok u =>
      cases h
      exact encodeFirst_inv hfirst
  | error failures => cases h

/-- Null is written for null where the shape has it. -/
theorem encode_null {s : Shape} (h : s.isNullable = true) : encode F .null s = .ok .null := by
  cases s with
  | nullable inner =>
      rw [encode]
      rfl
  | _ => cases h

/-! ### Forms -/

/-- A value of another form than the values of a shape is refused. -/
theorem encode_refused_of_kind {s : Shape} {j k : WireKind} (hs : s.wireKind? = some k)
    (hv : v.unwrapped.wireKind? = some j) (hne : j ≠ k) : Refused (encode F v s) := by
  have hkind : v.unwrapped.wireKind? ≠ some k := by
    rw [hv]
    exact fun h => hne (Option.some.inj h)
  cases s with
  | primitive p =>
      rw [encode]
      exact Primitive.accept_refused hs hkind
  | enumeration e =>
      rw [encode]
      exact EnumShape.accept_refused hs hkind
  | record ref =>
      cases hs
      cases v with
      | record => exact absurd rfl hkind
      | _ =>
          rw [encode]
          · exact refused_refuse _ _ _
          · rintro own slots ⟨⟩
  | sequence element =>
      cases hs
      cases v with
      | list => exact absurd rfl hkind
      | tuple => cases hv
      | _ =>
          rw [encode]
          · exact refused_refuse _ _ _
          · rintro xs ⟨⟩
          · rintro xs ⟨⟩
  | union => cases hs
  | nullable => cases hs
  | any => cases hs

/-! ### Records -/

section Record

variable {ref own : ModelRef} {m n : Model} {slots : List (Slot Value)}

theorem encode_record_fields {fields : List Field} (hm : F.find? ref = some m)
    (hfields : m.fields.mapM (·.field) = .ok fields) :
    encode F (.record own slots) (.record ref) =
      (encodeFields F ref own slots (.record own slots) fields >>=
        m.seal F (.record own slots)) := by
  rw [encode, hm]
  simp only [hfields]

theorem encode_record (hkeyed : m.Keyed) (hm : F.find? ref = some m) :
    encode F (.record own slots) (.record ref) =
      (encodeFields F ref own slots (.record own slots) (m.fields.map FieldDecl.asField) >>=
        m.seal F (.record own slots)) :=
  encode_record_fields hm (Model.fields_eq hkeyed)

/-- What is written for a record are the entries of its fields, and they keep the rules of its
model. -/
theorem encode_record_inv (hkeyed : m.Keyed) (hm : F.find? ref = some m)
    (h : encode F v (.record ref) = .ok w) :
    ∃ own slots entries u, v = .record own slots ∧ w = .object entries ∧
      encodeFields F ref own slots v (m.fields.map FieldDecl.asField) = .ok entries ∧
        m.validate F w = .ok u := by
  cases v with
  | record own slots =>
      rw [encode_record hkeyed hm] at h
      obtain ⟨entries, hentries, h⟩ := bind_eq_ok.1 h
      unfold Model.seal at h
      split at h
      · next u hu =>
        cases h
        exact ⟨own, slots, entries, u, rfl, rfl, hentries, hu⟩
      · cases h
      · cases h
  | _ =>
      rw [encode] at h
      · cases h
      · rintro own slots ⟨⟩

/-- A record of no model has no entries. -/
theorem encode_record_unknown (hm : F.find? ref = none) (h : encode F v (.record ref) = .ok w) :
    w = .object [] := by
  cases v with
  | record own slots =>
      rw [encode, hm] at h
      exact (Except.ok.inj h).symm
  | _ =>
      rw [encode] at h
      · cases h
      · rintro own slots ⟨⟩

/-- A record of a model that lacks a field that must be there is refused. -/
theorem encode_record_missing (hF : F.Regular) (hm : F.find? ref = some m) {d : FieldDecl}
    {rest : List FieldDecl} (hfields : m.fields = d :: rest) (hnone : d.fallback.isNone = true)
    (hn : F.find? own = some n) (hlacks : ∀ e ∈ n.fields, e.name ≠ d.name) :
    Refused (encode F (.record own slots) (.record ref)) := by
  have hd := (hF.model hm).1.fields d (hfields ▸ List.mem_cons_self)
  have hoptional : d.asField.optional = false := by
    rw [hd.optional_eq, Option.isNone_iff_eq_none.1 hnone]
    rfl
  have hdeclares : n.declares d.asField.name = false := by
    rw [hd.name_eq, Bool.eq_false_iff, ne_eq, Model.declares_iff]
    rintro ⟨e, he, hname⟩
    exact hlacks e he hname
  rw [encode_record (hF.model hm).1.keyed hm, hfields, List.map_cons, encodeFields, hoptional, hn]
  simp only [Bool.false_and, Bool.false_eq_true, if_false, Option.any_some, hdeclares,
    Bool.not_false, if_true]
  exact (refused_refuse _ _ _).bind _

/-- Whether an attribute is written: it was given, and not as a null that stands for absence. -/
def Slot.isSent (d : FieldDecl) (s : Slot Value) : Bool :=
  s.origin == .given && !(s.value.isNull && !d.asField.nullable)

/-- What is written for a field of a record. -/
def FieldDecl.sent (F : Family) (slots : List (Slot Value)) (d : FieldDecl) : Option Value :=
  (Value.slot? slots d.name).bind fun s =>
    if s.isSent d then (encode F s.value d.asField.shape).toOption else none

theorem Slot.isSent_iff {d : FieldDecl} {s : Slot Value} :
    s.isSent d = true ↔
      s.origin = .given ∧ (s.value.isNull = true → d.asField.nullable = true) := by
  unfold isSent
  cases s.origin <;> cases s.value.isNull <;> cases d.asField.nullable <;> decide

namespace FieldDecl

variable {d : FieldDecl} {s : Slot Value} {u : Value}

theorem sent_of_isSent (slot : Value.slot? slots d.name = some s) (isSent : s.isSent d = true)
    (hencode : encode F s.value d.asField.shape = .ok u) : d.sent F slots = some u := by
  unfold sent
  rw [slot, Option.bind_some, if_pos isSent, hencode]
  rfl

theorem sent_of_left (slot : Value.slot? slots d.name = some s) (isLeft : s.isSent d = false) :
    d.sent F slots = none := by
  unfold sent
  rw [slot, Option.bind_some, isLeft]
  rfl

end FieldDecl

/-- The entries that are written for a record. -/
def Model.written (F : Family) (m : Model) (slots : List (Slot Value)) : List (String × Value) :=
  m.fields.filterMap fun d => (d.sent F slots).map (d.wire, ·)

/-- What an attribute has to be like for its field to be written, or left out. -/
def FieldDecl.IsReady (F : Family) (slots : List (Slot Value)) (d : FieldDecl) : Prop :=
  ∃ s, Value.slot? slots d.name = some s ∧ s.Keeps d ∧
    (s.isSent d = true → ∃ u, encode F s.value d.asField.shape = .ok u)

/-- A field whose attribute is ready adds what is sent for it. -/
theorem encodeFields_cons (hregular : m.Regular F) (hown : F.find? own = some m) {d : FieldDecl}
    (hd : d ∈ m.fields) (h : d.IsReady F slots) (whole : Value) (fields : List Field) :
    encodeFields F ref own slots whole (d.asField :: fields) =
      (encodeFields F ref own slots whole fields >>= fun rest =>
        .ok (((d.sent F slots).map (d.wire, ·)).toList ++ rest)) := by
  obtain ⟨s, hs, hkeeps, hencode⟩ := h
  have hfield := hregular.fields d hd
  have hdeclares : m.declares d.name = true := Model.declares_iff.2 ⟨d, hd, rfl⟩
  have hgiven : Value.isGiven slots d.name = (s.origin != .filled) := by
    unfold Value.isGiven
    rw [hs, Option.any_some]
  have hstep : encodeFields F ref own slots whole (d.asField :: fields) =
      if (d.asField.optional && !(s.origin != .filled)) = true then
        encodeFields F ref own slots whole fields
      else if s.value.isNull = true then
        if d.asField.nullable = true then do
          let entries ← encodeFields F ref own slots whole fields
          return (d.wire, .null) :: entries
        else if d.asField.optional = true then encodeFields F ref own slots whole fields
        else underSegment (.key d.wire) (refuse d.asField.shape s.value .unexpectedNull)
      else do
        let w ← underSegment (.key d.wire) (encode F s.value d.asField.shape)
        let entries ← encodeFields F ref own slots whole fields
        return (d.wire, w) :: entries := by
    rw [encodeFields, hfield.name_eq, hfield.wire_eq, hgiven, hown, Option.any_some, hdeclares]
    simp only [Bool.not_true, Bool.false_eq_true, if_false]
    split
    · rfl
    · split
      · next hnone =>
        rw [hs] at hnone
        cases hnone
      · next t ht =>
        rw [hs] at ht
        cases ht
        rfl
  rw [hstep]
  cases hsent : s.isSent d with
  | true =>
      obtain ⟨horigin, hnull⟩ := Slot.isSent_iff.1 hsent
      obtain ⟨u, hu⟩ := hencode hsent
      rw [FieldDecl.sent_of_isSent hs hsent hu, horigin,
        show (Origin.given != Origin.filled) = true from rfl, Bool.not_true, Bool.and_false,
        if_neg Bool.false_ne_true]
      split
      · next hvalue =>
        rw [Value.isNull_iff.1 hvalue, encode_null (hnull hvalue)] at hu
        cases hu
        rw [if_pos (hnull hvalue)]
        rfl
      · rw [hu]
        rfl
  | false =>
      have hskip : ∀ x : Except Fault (List (String × Value)),
          (x >>= fun rest => .ok ([] ++ rest)) = x := by
        intro x
        cases x <;> rfl
      have hleft : d.sent F slots = none := FieldDecl.sent_of_left hs hsent
      rw [hleft, Option.map_none, Option.toList_none, hskip]
      -- What is not sent is either filled in, or a null that stands for absence.
      unfold Slot.Keeps at hkeeps
      split at hkeeps
      · next horigin =>
        obtain ⟨hnull, hnullable⟩ : s.value.isNull = true ∧ d.asField.nullable = false := by
          unfold Slot.isSent at hsent
          rw [horigin] at hsent
          change (true && !(s.value.isNull && !d.asField.nullable)) = false at hsent
          simpa using hsent
        have hoptional := (hkeeps (Value.isNull_iff.1 hnull)).resolve_right
          (by rw [hnullable]; exact Bool.false_ne_true)
        rw [horigin, hnull, hnullable, hoptional]
        rfl
      · next horigin =>
        have hoptional : d.asField.optional = true := by
          rw [hfield.optional_eq, hkeeps]
          rfl
        rw [horigin, hoptional]
        rfl
      · exact hkeeps.elim

/-- A record with all its attributes is written field by field. -/
theorem encodeFields_ok (hregular : m.Regular F) (hown : F.find? own = some m)
    {ds : List FieldDecl} (hds : ∀ d ∈ ds, d ∈ m.fields) {whole : Value}
    (h : ∀ d ∈ ds, d.IsReady F slots) :
    encodeFields F ref own slots whole (ds.map FieldDecl.asField) =
      .ok (ds.filterMap fun d => (d.sent F slots).map (d.wire, ·)) := by
  induction ds with
  | nil =>
      rw [List.map_nil, encodeFields]
      rfl
  | cons d rest ih =>
      have hrest := ih (fun e he => hds e (List.mem_cons_of_mem d he))
        fun e he => h e (List.mem_cons_of_mem d he)
      rw [List.map_cons, encodeFields_cons hregular hown (hds d List.mem_cons_self)
        (h d List.mem_cons_self), hrest, ok_bind, List.filterMap_cons]
      cases d.sent F slots <;> rfl

/-- What is written for a record with all its attributes has the entries of its fields. -/
theorem encode_written (hF : F.Regular) (hm : F.find? ref = some m)
    (h : ∀ d ∈ m.fields, d.IsReady F slots)
    (hencode : encode F (.record ref slots) (.record ref) = .ok w) :
    w = .object (m.written F slots) := by
  have hfields : encodeFields F ref ref slots (.record ref slots)
      (m.fields.map FieldDecl.asField) = .ok (m.written F slots) :=
    encodeFields_ok (hF.model hm).1 hm (fun d hd => hd) h
  rw [encode_record (hF.model hm).1.keyed hm, hfields, ok_bind] at hencode
  unfold Model.seal at hencode
  split at hencode
  · cases hencode
    rfl
  · cases hencode
  · cases hencode

end Record

end EditorProtocol
