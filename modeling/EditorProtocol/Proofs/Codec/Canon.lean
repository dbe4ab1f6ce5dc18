import EditorProtocol.Proofs.Codec.RoundTrip

/-!
The canonical form of a wire value under a shape. It has exactly the declared fields of each record,
in declared order, without nulls that only stand for absence; arrays, scalars and what may be
anything stay as they are. What is decoded is written again in this form.
-/

namespace EditorProtocol

variable {F : Family} {s : Shape} {v w : Value}

theorem Field.sizeOf_lt_of_item? {f : Field} {w item : Value} (h : f.item? w = some item) :
    sizeOf item < sizeOf w := Value.sizeOf_lt_of_at? (item?_some_iff.1 h).1

mutual

/-- The canonical form of a wire value of a shape. Under a union it is that of the alternative which
the value is decoded as. -/
def canon (F : Family) (w : Value) (s : Shape) : Value :=
  match s with
  | .nullable inner => if w.isNull then .null else canon F w inner
  | .sequence element =>
    match w with
    | .list xs => .list (canonItems F xs element)
    | w => w
  | .union alternatives => canonFirst F w alternatives
  | .record ref =>
    match F.find? ref with
    | some m => if w.isObject then .object (canonFields F w m.fields) else w
    | none => w
  | _ => w
termination_by (sizeOf w, 1, sizeOf s)
decreasing_by
  · exact Prod.Lex.right _ (Prod.Lex.right _ (by simp +arith))
  · exact Prod.Lex.left _ _ (by simp +arith)
  · exact Prod.Lex.right _ (Prod.Lex.right _ (by simp +arith))
  · exact Prod.Lex.right _ (Prod.Lex.left _ _ (by simp +arith))

def canonItems (F : Family) (xs : List Value) (element : Shape) : List Value :=
  match xs with
  | [] => []
  | x :: rest => canon F x element :: canonItems F rest element
termination_by (sizeOf xs, 0, 0)
decreasing_by
  · exact Prod.Lex.left _ _ (by simp +arith)
  · exact Prod.Lex.left _ _ (by simp +arith)

def canonFirst (F : Family) (w : Value) (alternatives : List Shape) : Value :=
  match alternatives with
  | [] => w
  | s :: rest => if (decode F false w s).outcome.isOk then canon F w s else canonFirst F w rest
termination_by (sizeOf w, 1, sizeOf alternatives)
decreasing_by
  · exact Prod.Lex.right _ (Prod.Lex.right _ (by simp +arith))
  · exact Prod.Lex.right _ (Prod.Lex.right _ (by simp +arith))

def canonFields (F : Family) (w : Value) (ds : List FieldDecl) : List (String × Value) :=
  match ds with
  | [] => []
  | d :: rest =>
    match _h : d.asField.item? w with
    | some item => (d.wire, canon F item d.asField.shape) :: canonFields F w rest
    | none => canonFields F w rest
termination_by (sizeOf w, 0, sizeOf ds)
decreasing_by
  · exact Prod.Lex.left _ _ (Field.sizeOf_lt_of_item? _h)
  · exact Prod.Lex.right _ (Prod.Lex.right _ (by simp +arith))
  · exact Prod.Lex.right _ (Prod.Lex.right _ (by simp +arith))

end

/-! ### Parts -/

theorem canonItems_eq_map {element : Shape} (xs : List Value) :
    canonItems F xs element = xs.map (canon F · element) := by
  induction xs with
  | nil => rw [canonItems, List.map_nil]
  | cons x rest ih => rw [canonItems, ih, List.map_cons]

/-- What there is for a field, in canonical form. -/
def FieldDecl.canonical (F : Family) (w : Value) (d : FieldDecl) : Option Value :=
  (d.asField.item? w).map (canon F · d.asField.shape)

theorem canonFields_eq (ds : List FieldDecl) :
    canonFields F w ds = ds.filterMap fun d => (d.canonical F w).map (d.wire, ·) := by
  induction ds with
  | nil => rw [canonFields, List.filterMap_nil]
  | cons d rest ih =>
      rw [canonFields, List.filterMap_cons, FieldDecl.canonical]
      split
      · next item hitem =>
        rw [hitem, ih]
        rfl
      · next hitem =>
        rw [hitem, ih]
        rfl

theorem canon_record {ref : ModelRef} {m : Model} (hm : F.find? ref = some m)
    (hobject : w.isObject = true) :
    canon F w (.record ref) =
      .object (m.fields.filterMap fun d => (d.canonical F w).map (d.wire, ·)) := by
  rw [canon, hm]
  dsimp only
  rw [if_pos hobject, canonFields_eq]

/-- A union has the canonical form of the first alternative that takes the value. -/
theorem canonFirst_append {before after : List Shape}
    (hbefore : ∀ t ∈ before, (decode F false w t).outcome.isOk = false)
    (hs : (decode F false w s).outcome.isOk = true) :
    canonFirst F w (before ++ s :: after) = canon F w s := by
  induction before with
  | nil => rw [List.nil_append, canonFirst, if_pos hs]
  | cons t rest ih =>
      rw [List.cons_append, canonFirst, hbefore t List.mem_cons_self]
      exact ih fun u hu => hbefore u (List.mem_cons_of_mem t hu)

theorem canonFirst_of_none {alternatives : List Shape}
    (h : ∀ t ∈ alternatives, (decode F false w t).outcome.isOk = false) :
    canonFirst F w alternatives = w := by
  induction alternatives with
  | nil => rw [canonFirst]
  | cons t rest ih =>
      rw [canonFirst, h t List.mem_cons_self]
      exact ih fun u hu => h u (List.mem_cons_of_mem t hu)

/-- The first of several alternatives that takes a value. -/
theorem exists_first {alternatives : List Shape} {more : List (Shape × Value)}
    (h : matchesOf F false w alternatives = (s, v) :: more) :
    ∃ before after, alternatives = before ++ s :: after ∧
      (∀ t ∈ before, (decode F false w t).outcome.isOk = false) ∧
      (decode F false w s).outcome = .ok v := by
  induction alternatives with
  | nil => cases h
  | cons t rest ih =>
      unfold matchesOf at h
      rw [List.filterMap_cons] at h
      cases hdecode : (decode F false w t).outcome with
      | ok u =>
          rw [hdecode] at h
          cases h
          exact ⟨[], rest, rfl, fun t ht => (List.not_mem_nil ht).elim, hdecode⟩
      | error f =>
          rw [hdecode] at h
          obtain ⟨before, after, rfl, hbefore, hs⟩ := ih h
          refine ⟨t :: before, after, rfl, fun u hu => ?_, hs⟩
          rcases List.mem_cons.1 hu with rfl | hu
          · rw [hdecode]
            rfl
          · exact hbefore u hu

/-! ### Canonical forms are what is written -/

/-- What is written for a field that was decoded is what there was for it, in canonical form. -/
theorem FieldDecl.sent_decoded {d : FieldDecl} {slots : List (Slot Value)} (hd : d.Regular F)
    (slot : Value.slot? slots d.name = some (d.slotOf (Model.decoded F false w d)))
    (hdecoded : d.asField.IsDecoded F false w)
    (hencode : ∀ item, d.asField.item? w = some item → ∀ v,
      (decode F false item d.asField.shape).outcome = .ok v →
        v.isNull = item.isNull ∧
          encode F v d.asField.shape = .ok (canon F item d.asField.shape)) :
    d.IsReady F slots ∧ d.sent F slots = d.canonical F w := by
  unfold Model.decoded Field.value? at slot
  unfold Field.IsDecoded at hdecoded
  unfold canonical
  split at hdecoded
  · next hitem =>
    rw [hitem] at slot ⊢
    have hready : d.IsReady F slots := by
      refine ⟨_, slot, hd.fallback_of_optional hdecoded, fun hsent => ?_⟩
      cases hsent
    exact ⟨hready, sent_of_left slot rfl⟩
  · next item hitem =>
    obtain ⟨hnull, v, hv⟩ := hdecoded
    obtain ⟨hisNull, hwritten⟩ := hencode item hitem v hv
    rw [hitem, Option.bind_some, hv] at slot
    rw [hitem]
    have hkept : v.isNull = true → d.asField.nullable = true := by
      rw [hisNull]
      exact hnull
    have hsent : Slot.isSent d ⟨d.name, v, .given⟩ = true := Slot.isSent_iff.2 ⟨rfl, hkept⟩
    have hready : d.IsReady F slots :=
      ⟨_, slot, fun h => .inr (hkept (Value.isNull_iff.2 h)), fun _ => ⟨_, hwritten⟩⟩
    exact ⟨hready, sent_of_isSent slot hsent hwritten⟩

theorem encode_of_decode_list {element : Shape} {xs : List Value}
    (hitem : ∀ x ∈ xs, ∀ v, (decode F false x element).outcome = .ok v →
      encode F v element = .ok (canon F x element))
    (h : (decode F false (.list xs) (.sequence element)).outcome = .ok v) :
    encode F v (.sequence element) = .ok (canon F (.list xs) (.sequence element)) := by
  rw [decode, Traced.outcome_bind] at h
  obtain ⟨vs, hvs, h⟩ := bind_eq_ok.1 h
  cases h
  have hitems := (List.forall₂_and_left xs vs).2 ⟨hitem, decodeItems_ok_iff.1 hvs⟩
  have hwritten : encodeItems F 0 vs element = .ok (xs.map (canon F · element)) := by
    rw [encodeItems_ok_iff, List.forall₂_map_right_iff]
    exact (hitems.imp fun _ v hx => hx.1 v hx.2).flip
  rw [encode, hwritten, canon, canonItems_eq_map]
  rfl

/-- What is written for the value that something was decoded to is its canonical form. -/
theorem encode_of_decode (hF : F.Regular) {s : Shape} {w v : Value} (hs : s.isRegular F = true)
    (hw : w.IsJson) (h : (decode F false w s).outcome = .ok v) :
    encode F v s = .ok (canon F w s) := by
  obtain ⟨hconforms, _, hisNull⟩ := (decode_sound hF hs hw).2 v h
  cases s with
  | primitive p =>
      have hfloat : p.kind ≠ .float := by simpa [Shape.isRegular] using hs
      rw [decode, Traced.outcome_of] at h
      cases (Primitive.accept_inv (F := F) hfloat h).2.2 hw
      rw [encode, hw.unwrapped, canon]
      · exact h
      all_goals intros; contradiction
  | enumeration e =>
      rw [decode, Traced.outcome_of] at h
      rw [encode, (EnumShape.decode_inv (F := F) hs hw h).2.2, canon]
      all_goals intros; contradiction
  | any =>
      rw [decode, Traced.outcome_of, hw.checkJson] at h
      cases h
      rw [(Delivers.any hw).encoded, canon]
      all_goals intros; contradiction
  | nullable inner =>
      rw [encode, canon, hisNull]
      rw [decode] at h
      split
      · rfl
      · next hnull =>
        rw [if_neg hnull] at h
        exact encode_of_decode hF hs hw h
  | sequence element =>
      rw [Shape.isRegular] at hs
      cases hw with
      | @list xs items =>
          exact encode_of_decode_list (fun x hx v hv => encode_of_decode hF hs (items x hx) hv) h
      | _ =>
          rw [decode] at h
          · cases h
          · rintro xs ⟨⟩
  | union alternatives =>
      have hregular := hs
      rw [Shape.isRegular, Bool.and_eq_true] at hregular
      obtain ⟨_, hinv, _⟩ := decode_union fun t ht =>
        (decode_sound hF (Shape.areRegular_mem hregular.1 ht) hw).1
      obtain ⟨s, more, hmatches⟩ := hinv v h
      obtain ⟨before, after, rfl, hbefore, hs'⟩ := exists_first hmatches
      have hlisted : s ∈ before ++ s :: after := List.mem_append_right before List.mem_cons_self
      have hs := Shape.areRegular_mem hregular.1 hlisted
      have hapart := Shape.areApart_inv hregular.2
      rw [canon, canonFirst_append hbefore (by rw [hs']; rfl)]
      -- Encoding passes over the alternatives that decoding has passed over.
      refine encode_union (fun t ht => ?_) (encode_of_decode hF hs hw hs')
      exact encode_refused_of_apart hF (hapart t ht) hs ((decode_sound hF hs hw).2 v hs').1
  | record ref =>
      obtain ⟨m, hm⟩ := Option.isSome_iff_exists.1 hs
      have hregular := (hF.model hm).1
      have hobject := isObject_of_decode h
      obtain ⟨hdecoded, rfl, _⟩ := (decode_record_iff hF hm hw hobject).1 h
      have hsent := fun d (hd : d ∈ m.fields) =>
        FieldDecl.sent_decoded (hregular.fields d hd) (Model.slot?_slots hregular.keyed hd)
          (hdecoded d hd) fun item hitem v hv => by
            have hjson := hw.at? (Field.item?_some_iff.1 hitem).1
            have hshape := (hregular.fields d hd).shape
            exact ⟨((decode_sound hF hshape hjson).2 v hv).2.2,
              encode_of_decode hF hshape hjson hv⟩
      -- That encoding succeeds is known from the round trip; what it writes is left.
      obtain ⟨u, hu, _⟩ := hconforms.delivers hF hs
      have hwritten := encode_written hF hm (fun d hd => (hsent d hd).1) hu.encoded
      rw [hu.encoded, hwritten, canon_record hm hobject, Model.written,
        List.filterMap_congr fun d hd => by rw [(hsent d hd).2]]
termination_by (sizeOf w, sizeOf s)
decreasing_by
  · exact Prod.Lex.left _ _ (Field.sizeOf_lt_of_item? hitem)
  all_goals subst_vars
  · exact Prod.Lex.right _ (Shape.sizeOf_lt_of_mem hlisted)
  · exact Prod.Lex.left _ _ (Value.sizeOf_lt_of_mem hx)
  · exact Prod.Lex.right _ (by simp +arith)

/-- The canonical form is decoded to the same value. -/
theorem decode_canon (hF : F.Regular) (hs : s.isRegular F = true) (hw : w.IsJson)
    (h : (decode F false w s).outcome = .ok v) :
    (canon F w s).IsJson ∧ s.Covers F (canon F w s) ∧
      (decode F false (canon F w s) s).outcome = .ok v := by
  obtain ⟨hconforms, hsettled, _⟩ := (decode_sound hF hs hw).2 v h
  obtain ⟨u, hu, hkeys⟩ := hconforms.delivers hF hs
  cases hu.encoded.symm.trans (encode_of_decode hF hs hw h)
  refine ⟨hu.json, hkeys, ?_⟩
  rw [hu.decoded, hsettled]

/-! ### Canonical forms stay as they are -/

theorem isNull_canon (F : Family) (w : Value) (s : Shape) : (canon F w s).isNull = w.isNull := by
  cases s with
  | nullable inner =>
      rw [canon]
      split
      · next hnull =>
        rw [hnull]
        rfl
      · exact isNull_canon F w inner
  | sequence element =>
      rw [canon.eq_def]
      dsimp only
      split <;> rfl
  | union alternatives =>
      rw [canon]
      have hmem : ∀ t ∈ alternatives, (canon F w t).isNull = w.isNull :=
        fun t ht => isNull_canon F w t
      induction alternatives with
      | nil => rw [canonFirst]
      | cons t rest ih =>
          rw [canonFirst]
          split
          · exact hmem t List.mem_cons_self
          · exact ih fun u hu => hmem u (List.mem_cons_of_mem t hu)
  | record ref =>
      rw [canon]
      split
      · split
        · next hobject =>
          cases w with
          | null => cases hobject
          | _ => rfl
        · rfl
      · rfl
  | _ =>
      rw [canon]
      all_goals intros; contradiction
termination_by sizeOf s
decreasing_by
  all_goals subst_vars
  · exact Shape.sizeOf_lt_of_mem ht
  · simp +arith

/-- The entry for a field stays, if its own canonical form does. -/
theorem FieldDecl.canonical_canon {m : Model} (hm : m.Regular F) {d : FieldDecl}
    (hd : d ∈ m.fields)
    (hitems : ∀ item, d.asField.item? w = some item →
      canon F (canon F item d.asField.shape) d.asField.shape = canon F item d.asField.shape) :
    d.canonical F (.object (m.fields.filterMap fun e => (e.canonical F w).map (e.wire, ·))) =
      d.canonical F w := by
  have hat : (Value.object (m.fields.filterMap fun e =>
      (e.canonical F w).map (e.wire, ·))).at? d.asField.wire = d.canonical F w := by
    rw [(hm.fields d hd).wire_eq]
    exact Value.lookup_filterMap hm.wires hd
  cases hitem : d.asField.item? w with
  | none =>
      -- There was no entry, or a null that is not kept: nothing is there now.
      have hnone : d.canonical F w = none := by
        rw [canonical, hitem]
        rfl
      rw [hnone] at hat ⊢
      rw [canonical, Field.item?_none_iff.2 (.inl hat)]
      rfl
  | some item =>
      have hsome : d.canonical F w = some (canon F item d.asField.shape) := by
        rw [canonical, hitem]
        rfl
      have hkept := (Field.item?_some_iff.1 hitem).2
      rw [hsome] at hat ⊢
      rw [canonical, Field.item?_some_iff.2 ⟨hat, by rwa [isNull_canon]⟩, Option.map_some,
        hitems item hitem]

/-- The canonical form of a value under a union is decoded as the same alternative. -/
theorem canon_union_canon (hF : F.Regular) {alternatives : List Shape}
    (hs : (Shape.union alternatives).isRegular F = true) (hw : w.IsJson)
    (hcanon : ∀ t ∈ alternatives, canon F (canon F w t) t = canon F w t) :
    canon F (canon F w (.union alternatives)) (.union alternatives) =
      canon F w (.union alternatives) := by
  rw [Shape.isRegular, Bool.and_eq_true] at hs
  cases hmatches : matchesOf F false w alternatives with
  | nil =>
      have hnone : ∀ t ∈ alternatives, (decode F false w t).outcome.isOk = false := by
        intro t ht
        have hmatch := List.filterMap_eq_nil_iff.1 hmatches t ht
        cases hdecode : (decode F false w t).outcome with
        | error f => rfl
        | ok v =>
            rw [hdecode] at hmatch
            cases hmatch
      have hsame : canon F w (.union alternatives) = w := by
        rw [canon, canonFirst_of_none hnone]
      rw [hsame, hsame]
  | cons first more =>
      obtain ⟨s, v⟩ := first
      obtain ⟨before, after, rfl, hbefore, hs'⟩ := exists_first hmatches
      have hlisted : s ∈ before ++ s :: after := List.mem_append_right before List.mem_cons_self
      have hregular := Shape.areRegular_mem hs.1 hlisted
      obtain ⟨hjson, hkeys, hdecode⟩ := decode_canon hF hregular hw hs'
      -- What `w` was refused for may be gone now, so the alternatives are told apart once more.
      have hbefore' : ∀ t ∈ before, (decode F false (canon F w s) t).outcome.isOk = false := by
        intro t ht
        have hapart := Shape.areApart_inv hs.2 t ht
        exact (decode_refused_of_apart hF hapart hjson hdecode hkeys).isOk
      have hfirst : canon F w (.union (before ++ s :: after)) = canon F w s := by
        rw [canon, canonFirst_append hbefore (by rw [hs']; rfl)]
      rw [hfirst, canon, canonFirst_append hbefore' (by rw [hdecode]; rfl)]
      exact hcanon s hlisted

/-- What is in canonical form is its own canonical form. -/
theorem canon_canon (hF : F.Regular) {s : Shape} {w : Value} (hs : s.isRegular F = true)
    (hw : w.IsJson) : canon F (canon F w s) s = canon F w s := by
  cases s with
  | nullable inner =>
      cases hnull : w.isNull with
      | true =>
          cases Value.isNull_iff.1 hnull
          have hcanon : canon F .null (.nullable inner) = .null := by
            rw [canon]
            rfl
          rw [hcanon, hcanon]
      | false =>
          have hcanon : ∀ u : Value, u.isNull = false →
              canon F u (.nullable inner) = canon F u inner := by
            intro u hu
            rw [canon, hu]
            rfl
          rw [hcanon w hnull, hcanon _ ((isNull_canon F w inner).trans hnull)]
          exact canon_canon hF hs hw
  | sequence element =>
      rw [Shape.isRegular] at hs
      by_cases hlist : ∃ xs, w = .list xs
      · obtain ⟨xs, rfl⟩ := hlist
        have hitems : ∀ x ∈ xs, x.IsJson := by
          cases hw with
          | list items => exact items
        have hcanon : ∀ x ∈ xs, canon F (canon F x element) element = canon F x element :=
          fun x hx => canon_canon hF hs (hitems x hx)
        rw [canon, canon, canonItems_eq_map, canonItems_eq_map, List.map_map]
        exact congrArg Value.list (List.map_congr_left hcanon)
      · have hcanon : canon F w (.sequence element) = w := by
          rw [canon]
          exact fun xs hxs => hlist ⟨xs, hxs⟩
        rw [hcanon, hcanon]
  | union alternatives =>
      have hregular := hs
      rw [Shape.isRegular, Bool.and_eq_true] at hregular
      exact canon_union_canon hF hs hw fun t ht =>
        canon_canon hF (Shape.areRegular_mem hregular.1 ht) hw
  | record ref =>
      obtain ⟨m, hm⟩ := Option.isSome_iff_exists.1 hs
      have hregular := (hF.model hm).1
      cases hobject : w.isObject with
      | false =>
          have hcanon : canon F w (.record ref) = w := by
            rw [canon, hm]
            dsimp only
            rw [hobject]
            rfl
          rw [hcanon, hcanon]
      | true =>
          rw [canon_record hm hobject, canon_record hm rfl]
          refine congrArg Value.object (List.filterMap_congr fun d hd => ?_)
          rw [FieldDecl.canonical_canon hregular hd fun item hitem =>
            canon_canon hF (hregular.fields d hd).shape (hw.at? (Field.item?_some_iff.1 hitem).1)]
  | _ =>
      rw [canon]
      all_goals intros; contradiction
termination_by (sizeOf w, sizeOf s)
decreasing_by
  · exact Prod.Lex.left _ _ (Field.sizeOf_lt_of_item? hitem)
  all_goals subst_vars
  · exact Prod.Lex.right _ (Shape.sizeOf_lt_of_mem ht)
  · exact Prod.Lex.left _ _ (Value.sizeOf_lt_of_mem hx)
  · exact Prod.Lex.right _ (by simp +arith)

end EditorProtocol
