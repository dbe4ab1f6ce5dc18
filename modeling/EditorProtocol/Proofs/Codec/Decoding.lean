import Mathlib.Data.List.Forall2
import EditorProtocol.Codec.Decode
import EditorProtocol.Proofs.Codec.Scalar

/-!
One step of decoding for each kind of shape: what the parts of a value have to decode to for the
whole to be decoded, and when the whole is decided because its parts are.
-/

namespace EditorProtocol

variable {F : Family} {exact : Bool} {w v : Value}

/-! ### Sequences -/

theorem exists_of_forall₂ {α β : Type} {R : α → β → Prop} {xs : List α} {ys : List β}
    (h : List.Forall₂ R xs ys) {y : β} (hy : y ∈ ys) : ∃ x ∈ xs, R x y := by
  induction h with
  | nil => cases hy
  | @cons x z xs zs hxz _ ih =>
      rcases List.mem_cons.1 hy with rfl | hy
      · exact ⟨x, List.mem_cons_self, hxz⟩
      · obtain ⟨u, hu, hR⟩ := ih hy
        exact ⟨u, List.mem_cons_of_mem x hu, hR⟩

theorem decodeItems_ok_iff {element : Shape} {i : Nat} {xs vs : List Value} :
    (decodeItems F exact i xs element).outcome = .ok vs ↔
      List.Forall₂ (fun x v => (decode F exact x element).outcome = .ok v) xs vs := by
  induction xs generalizing i vs with
  | nil =>
      rw [decodeItems, Traced.outcome_pure]
      constructor
      · intro h
        cases h
        exact .nil
      · intro h
        cases h
        rfl
  | cons x rest ih =>
      rw [decodeItems, Traced.outcome_bind, Traced.outcome_under]
      constructor
      · intro h
        obtain ⟨u, hu, h⟩ := bind_eq_ok.1 h
        rw [Traced.outcome_bind] at h
        obtain ⟨us, hus, h⟩ := bind_eq_ok.1 h
        cases h
        exact .cons (underSegment_eq_ok.1 hu) (ih.1 hus)
      · intro h
        cases h with
        | cons hx hrest =>
            rw [hx, underSegment_ok, ok_bind, Traced.outcome_bind, ih.2 hrest]
            rfl

theorem decodeItems_decided {element : Shape} {xs : List Value}
    (h : ∀ x ∈ xs, Decided (decode F exact x element).outcome) (i : Nat) :
    Decided (decodeItems F exact i xs element).outcome := by
  induction xs generalizing i with
  | nil =>
      rw [decodeItems]
      exact decided_ok []
  | cons x rest ih =>
      rw [decodeItems, Traced.outcome_bind, Traced.outcome_under]
      refine ((h x List.mem_cons_self).underSegment (.index i)).bind fun u _ => ?_
      rw [Traced.outcome_bind]
      refine (ih (fun y hy => h y (List.mem_cons_of_mem x hy)) (i + 1)).bind fun us _ => ?_
      exact decided_ok (u :: us)

/-- A sequence is refused only if one of its items is. -/
theorem refused_of_items {element : Shape} {i : Nat} {xs : List Value}
    (h : Refused (decodeItems F exact i xs element).outcome) :
    ∃ x ∈ xs, Refused (decode F exact x element).outcome := by
  induction xs generalizing i with
  | nil =>
      rw [decodeItems] at h
      exact absurd rfl (h.ne_ok [])
  | cons x rest ih =>
      rw [decodeItems, Traced.outcome_bind, Traced.outcome_under] at h
      rcases refused_bind_inv h with hfirst | ⟨u, _, h⟩
      · exact ⟨x, List.mem_cons_self, refused_of_underSegment hfirst⟩
      · rw [Traced.outcome_bind] at h
        rcases refused_bind_inv h with hrest | ⟨us, _, h⟩
        · obtain ⟨y, hy, hrefused⟩ := ih hrest
          exact ⟨y, List.mem_cons_of_mem x hy, hrefused⟩
        · exact absurd rfl (h.ne_ok (u :: us))

/-! ### Unions -/

/-- The alternatives that a wire value matches, with what it decodes to under each. -/
def matchesOf (F : Family) (exact : Bool) (w : Value) (alternatives : List Shape) :
    List (Shape × Value) :=
  alternatives.filterMap fun s => (decode F exact w s).outcome.toOption.map (s, ·)

theorem tryAlternatives_ok {alternatives : List Shape}
    (h : ∀ s ∈ alternatives, Decided (decode F exact w s).outcome) :
    ∃ tries, (tryAlternatives F exact w alternatives).outcome = .ok tries ∧
      (splitTries tries).1 = matchesOf F exact w alternatives := by
  induction alternatives with
  | nil =>
      rw [tryAlternatives]
      exact ⟨[], rfl, rfl⟩
  | cons s rest ih =>
      obtain ⟨tries, htries, hsplit⟩ := ih fun t ht => h t (List.mem_cons_of_mem s ht)
      rw [tryAlternatives, Traced.outcome_bind]
      unfold matchesOf at hsplit ⊢
      rw [List.filterMap_cons]
      rcases h s List.mem_cons_self with ⟨v, hv⟩ | hrefused
      · rw [Traced.outcome_attempt_ok hv, ok_bind, Traced.outcome_bind, htries, hv, ← hsplit]
        exact ⟨(s, .ok v) :: tries, rfl, rfl⟩
      · obtain ⟨m, hm⟩ := Traced.outcome_attempt_refused hrefused
        obtain ⟨n, hn⟩ := hrefused
        rw [hm, ok_bind, Traced.outcome_bind, htries, hn, ← hsplit]
        exact ⟨(s, .error m) :: tries, rfl, rfl⟩

/-- What a union makes of the matches of its alternatives. -/
theorem decode_union {alternatives : List Shape}
    (h : ∀ s ∈ alternatives, Decided (decode F exact w s).outcome) :
    Decided (decode F exact w (.union alternatives)).outcome ∧
      (∀ v, (decode F exact w (.union alternatives)).outcome = .ok v →
        ∃ s more, matchesOf F exact w alternatives = (s, v) :: more) ∧
      ∀ s v more, exact = false → matchesOf F exact w alternatives = (s, v) :: more →
        (decode F exact w (.union alternatives)).outcome = .ok v := by
  obtain ⟨tries, htries, hsplit⟩ := tryAlternatives_ok h
  rw [decode, Traced.outcome_bind, htries, ok_bind, ← hsplit]
  unfold chooseAlternative
  split
  · next failed hfailed =>
    rw [hfailed]
    refine ⟨decided_refuse _ _ _, ?_, ?_⟩
    · intro u hu
      cases hu
    · intro t u others _ hothers
      cases hothers
  · next s v failed hfailed =>
    rw [hfailed]
    refine ⟨decided_ok v, ?_, ?_⟩
    · intro u hu
      cases hu
      exact ⟨s, [], rfl⟩
    · intro t u others _ hothers
      cases hothers
      rfl
  · next s v more failed hmany hfailed =>
    rw [hfailed]
    dsimp only
    -- Several matches are refused only when an exact one was asked for.
    split
    · next hexact =>
      refine ⟨decided_refuse _ _ _, ?_, ?_⟩
      · intro u hu
        cases hu
      · intro t u others hfalse
        rw [hfalse] at hexact
        cases hexact
    · refine ⟨decided_ok v, ?_, ?_⟩
      · intro u hu
        cases hu
        exact ⟨s, more, rfl⟩
      · intro t u others _ hothers
        cases hothers
        rfl

theorem mem_of_matchesOf {alternatives : List Shape} {s : Shape} {more : List (Shape × Value)}
    (h : matchesOf F exact w alternatives = (s, v) :: more) :
    s ∈ alternatives ∧ (decode F exact w s).outcome = .ok v := by
  have hmem : (s, v) ∈ matchesOf F exact w alternatives := by
    rw [h]
    exact List.mem_cons_self
  obtain ⟨t, ht, hmap⟩ := List.mem_filterMap.1 hmem
  obtain ⟨u, hu, heq⟩ := Option.map_eq_some_iff.1 hmap
  cases heq
  refine ⟨ht, ?_⟩
  cases hdecode : (decode F exact w s).outcome with
  | error f =>
      rw [hdecode] at hu
      cases hu
  | ok v' =>
      rw [hdecode] at hu
      cases hu
      rfl

theorem matchesOf_append_of_refused {before after : List Shape}
    (h : ∀ t ∈ before, Refused (decode F exact w t).outcome) :
    matchesOf F exact w (before ++ after) = matchesOf F exact w after := by
  unfold matchesOf
  rw [List.filterMap_append, List.filterMap_eq_nil_iff.2, List.nil_append]
  intro t ht
  obtain ⟨m, hm⟩ := h t ht
  rw [hm]
  rfl

/-- The first alternative that matches is used, whether or not later ones match as well. -/
theorem decode_union_first {s : Shape} {before after : List Shape}
    (hbefore : ∀ t ∈ before, Refused (decode F false w t).outcome)
    (hs : (decode F false w s).outcome = .ok v)
    (hafter : ∀ t ∈ after, Decided (decode F false w t).outcome) :
    (decode F false w (.union (before ++ s :: after))).outcome = .ok v := by
  have hdecided : ∀ t ∈ before ++ s :: after, Decided (decode F false w t).outcome :=
    List.forall_mem_append.2 ⟨fun t ht => (hbefore t ht).decided,
      List.forall_mem_cons.2 ⟨.inl ⟨v, hs⟩, hafter⟩⟩
  refine (decode_union hdecided).2.2 s v (matchesOf F false w after) rfl ?_
  rw [matchesOf_append_of_refused hbefore]
  unfold matchesOf
  rw [List.filterMap_cons, hs]
  rfl

/-- Unless all alternatives of a union are decoded or refused, the first fault of another kind ends
the union. -/
theorem tryAlternatives_cases (F : Family) (exact : Bool) (w : Value) (alternatives : List Shape) :
    (∀ s ∈ alternatives, Decided (decode F exact w s).outcome) ∨
      ∃ s ∈ alternatives, ∃ f, (∀ m, f ≠ .mismatch m) ∧
        (decode F exact w s).outcome = .error f ∧
          (tryAlternatives F exact w alternatives).outcome = .error f := by
  induction alternatives with
  | nil => exact .inl (List.forall_mem_nil _)
  | cons s rest ih =>
      -- An alternative that is decided leaves the outcome to the others.
      have hrest : Decided (decode F exact w s).outcome →
          (∃ r, (decode F exact w s).attempt.outcome = .ok r) →
            (∀ t ∈ s :: rest, Decided (decode F exact w t).outcome) ∨
              ∃ t ∈ s :: rest, ∃ f, (∀ m, f ≠ .mismatch m) ∧
                (decode F exact w t).outcome = .error f ∧
                  (tryAlternatives F exact w (s :: rest)).outcome = .error f := by
        rintro hs ⟨r, hr⟩
        refine ih.imp (fun h => List.forall_mem_cons.2 ⟨hs, h⟩) ?_
        rintro ⟨t, ht, f, hf, hfault, htries⟩
        refine ⟨t, List.mem_cons_of_mem s ht, f, hf, hfault, ?_⟩
        rw [tryAlternatives, Traced.outcome_bind, hr, ok_bind, Traced.outcome_bind, htries]
        rfl
      cases hs : (decode F exact w s).outcome with
      | ok v => exact hrest (hs ▸ decided_ok v) ⟨_, Traced.outcome_attempt_ok hs⟩
      | error f =>
          cases f with
          | mismatch m =>
              have hrefused : Refused (decode F exact w s).outcome := ⟨m, hs⟩
              obtain ⟨n, hn⟩ := Traced.outcome_attempt_refused hrefused
              exact hrest hrefused.decided ⟨_, hn⟩
          | _ =>
              refine .inr ⟨s, List.mem_cons_self, _, fun m hm => (by cases hm), hs, ?_⟩
              rw [tryAlternatives, Traced.outcome_bind, Traced.attempt, hs]
              rfl

theorem decode_union_cases (F : Family) (exact : Bool) (w : Value) (alternatives : List Shape) :
    (∀ s ∈ alternatives, Decided (decode F exact w s).outcome) ∨
      ∃ s ∈ alternatives, ∃ f, (∀ m, f ≠ .mismatch m) ∧
        (decode F exact w s).outcome = .error f ∧
          (decode F exact w (.union alternatives)).outcome = .error f := by
  refine (tryAlternatives_cases F exact w alternatives).imp_right ?_
  rintro ⟨s, hs, f, hf, hfault, htries⟩
  refine ⟨s, hs, f, hf, hfault, ?_⟩
  rw [decode, Traced.outcome_bind, htries]
  rfl

/-- What a union is decoded to, one of its alternatives is. -/
theorem decode_union_inv {alternatives : List Shape}
    (h : (decode F exact w (.union alternatives)).outcome = .ok v) :
    ∃ s ∈ alternatives, (decode F exact w s).outcome = .ok v := by
  rcases decode_union_cases F exact w alternatives with hdecided | ⟨_, _, f, _, _, hunion⟩
  · obtain ⟨s, more, hmatches⟩ := (decode_union hdecided).2.1 v h
    exact ⟨s, mem_of_matchesOf hmatches⟩
  · cases hunion.symm.trans h

/-- Only an array is decoded as a sequence, item by item. -/
theorem decode_sequence_inv {element : Shape}
    (h : (decode F exact w (.sequence element)).outcome = .ok v) :
    ∃ xs vs, w = .list xs ∧ v = .list vs ∧
      List.Forall₂ (fun x u => (decode F exact x element).outcome = .ok u) xs vs := by
  cases w with
  | list xs =>
      rw [decode, Traced.outcome_bind] at h
      obtain ⟨vs, hvs, h⟩ := bind_eq_ok.1 h
      exact ⟨xs, vs, rfl, (Except.ok.inj h).symm, decodeItems_ok_iff.1 hvs⟩
  | _ =>
      rw [decode] at h
      · cases h
      · exact fun xs hxs => by cases hxs

/-- A union is refused only if each of its alternatives is. -/
theorem refused_of_union {alternatives : List Shape}
    (h : Refused (decode F false w (.union alternatives)).outcome) :
    ∀ s ∈ alternatives, Refused (decode F false w s).outcome := by
  intro s hs
  rcases decode_union_cases F false w alternatives with hdecided | ⟨_, _, f, hf, _, hunion⟩
  · refine (hdecided s hs).resolve_left ?_
    rintro ⟨v, hv⟩
    have hmem : (s, v) ∈ matchesOf F false w alternatives :=
      List.mem_filterMap.2 ⟨s, hs, by rw [hv]; rfl⟩
    obtain ⟨⟨t, u⟩, more, hmatches⟩ := List.exists_cons_of_ne_nil (List.ne_nil_of_mem hmem)
    exact h.ne_ok u ((decode_union hdecided).2.2 t u more rfl hmatches)
  · obtain ⟨m, hm⟩ := h
    exact absurd (Except.error.inj (hunion.symm.trans hm)) (hf m)

/-! ### Fields -/

namespace Field

/-- What an object has for a field, unless it is a null that only stands for absence. -/
def item? (f : Field) (w : Value) : Option Value :=
  (w.at? f.wire).filter fun item => !(item.isNull && !f.nullable && f.optional)

/-- What the value of a field decodes to. -/
def value? (F : Family) (exact : Bool) (w : Value) (f : Field) : Option Value :=
  (f.item? w).bind fun item => (decode F exact item f.shape).outcome.toOption

/-- A field is absent where it may be, or its value is decoded; null is so only if nullable. -/
def IsDecoded (F : Family) (exact : Bool) (w : Value) (f : Field) : Prop :=
  match f.item? w with
  | none => f.optional = true
  | some item => (item.isNull = true → f.nullable = true) ∧
      ∃ v, (decode F exact item f.shape).outcome = .ok v

theorem item?_none_iff {f : Field} : f.item? w = none ↔
    w.at? f.wire = none ∨
      ∃ item, w.at? f.wire = some item ∧ (item.isNull && !f.nullable && f.optional) = true := by
  unfold item?
  cases w.at? f.wire with
  | none => simp
  | some item => simp [Option.filter]

theorem item?_some_iff {f : Field} {item : Value} : f.item? w = some item ↔
    w.at? f.wire = some item ∧ (item.isNull && !f.nullable && f.optional) = false := by
  unfold item?
  rw [Option.filter_eq_some_iff, Bool.not_eq_true']

/-- A field that has a value has it from the wire. -/
theorem value?_inv {f : Field} (h : f.value? F exact w = some v) :
    ∃ item, f.item? w = some item ∧ (decode F exact item f.shape).outcome = .ok v := by
  obtain ⟨item, hitem, hvalue⟩ := Option.bind_eq_some_iff.1 h
  refine ⟨item, hitem, ?_⟩
  cases hdecode : (decode F exact item f.shape).outcome with
  | error e =>
      rw [hdecode] at hvalue
      cases hvalue
  | ok u =>
      rw [hdecode] at hvalue
      cases hvalue
      rfl

end Field

section Step

variable {ref : ModelRef} {f : Field} {rest : List Field} {item : Value}

theorem decodeFields_cons :
    decodeFields F exact w ref (f :: rest) =
      match w.at? f.wire with
      | none =>
        if f.optional then decodeFields F exact w ref rest
        else .of (refuse (.record ref) w (.missingField f.wire))
      | some item =>
        if item.isNull && !f.nullable then
          if f.optional then decodeFields F exact w ref rest
          else .of (underSegment (.key f.wire) (refuse f.shape item .unexpectedNull))
        else do
          let v ← (decode F exact item f.shape).under (.key f.wire)
          let vs ← decodeFields F exact w ref rest
          return (f.name, v) :: vs := by
  rw [decodeFields]
  split <;> simp_all

theorem decodeFields_absent (h : f.item? w = none) (hoptional : f.optional = true) :
    decodeFields F exact w ref (f :: rest) = decodeFields F exact w ref rest := by
  rw [decodeFields_cons]
  rcases Field.item?_none_iff.1 h with hnone | ⟨item, hat, hdrops⟩
  · rw [hnone]
    exact if_pos hoptional
  · rw [Bool.and_eq_true] at hdrops
    rw [hat]
    exact (if_pos hdrops.1).trans (if_pos hoptional)

theorem decodeFields_missing (h : f.item? w = none) (hoptional : f.optional = false) :
    Refused (decodeFields F exact w ref (f :: rest)).outcome := by
  rw [decodeFields_cons, hoptional]
  rcases Field.item?_none_iff.1 h with hnone | ⟨_, _, hdrops⟩
  · rw [hnone]
    exact refused_refuse _ _ _
  · rw [hoptional, Bool.and_false] at hdrops
    cases hdrops

theorem decodeFields_null (h : f.item? w = some item) (hnull : item.isNull = true)
    (hnullable : f.nullable = false) :
    Refused (decodeFields F exact w ref (f :: rest)).outcome := by
  obtain ⟨hat, hdrops⟩ := Field.item?_some_iff.1 h
  rw [hnull, hnullable] at hdrops
  have hneeded : f.optional = false := hdrops
  rw [decodeFields_cons, hat, hneeded]
  dsimp only
  rw [hnull, hnullable]
  exact (refused_refuse _ _ _).underSegment _

theorem decodeFields_present (h : f.item? w = some item)
    (hnull : item.isNull = true → f.nullable = true) :
    (decodeFields F exact w ref (f :: rest)).outcome =
      (underSegment (.key f.wire) (decode F exact item f.shape).outcome >>= fun v =>
        (decodeFields F exact w ref rest).outcome >>= fun vs => .ok ((f.name, v) :: vs)) := by
  have hkept : (item.isNull && !f.nullable) = false := by
    cases hitem : item.isNull with
    | false => rfl
    | true => rw [hnull hitem]; rfl
  rw [decodeFields_cons, (Field.item?_some_iff.1 h).1]
  dsimp only
  rw [hkept]
  simp

end Step

/-- The fields of an object are decoded if each one is, those that are there in declared order. -/
theorem decodeFields_ok_iff {ref : ModelRef} {fields : List Field}
    {values : List (String × Value)} :
    (decodeFields F exact w ref fields).outcome = .ok values ↔
      (∀ f ∈ fields, f.IsDecoded F exact w) ∧
        values = fields.filterMap fun f => (f.value? F exact w).map (f.name, ·) := by
  induction fields generalizing values with
  | nil =>
      rw [decodeFields, Traced.outcome_pure]
      constructor
      · intro h
        cases h
        exact ⟨fun f hf => (List.not_mem_nil hf).elim, rfl⟩
      · rintro ⟨_, rfl⟩
        rfl
  | cons f rest ih =>
      rw [List.forall_mem_cons, List.filterMap_cons]
      cases hitem : f.item? w with
      | none =>
          have hdecoded : f.IsDecoded F exact w ↔ f.optional = true := by
            unfold Field.IsDecoded
            rw [hitem]
          have hvalue : f.value? F exact w = none := by
            unfold Field.value?
            rw [hitem]
            rfl
          rw [hdecoded, hvalue]
          cases hoptional : f.optional with
          | true =>
              rw [decodeFields_absent hitem hoptional, ih]
              simp
          | false =>
              obtain ⟨m, hm⟩ : Refused (decodeFields F exact w ref (f :: rest)).outcome :=
                decodeFields_missing hitem hoptional
              rw [hm]
              simp
      | some item =>
          have hdecoded : f.IsDecoded F exact w ↔ (item.isNull = true → f.nullable = true) ∧
              ∃ v, (decode F exact item f.shape).outcome = .ok v := by
            unfold Field.IsDecoded
            rw [hitem]
          have hvalue : f.value? F exact w = (decode F exact item f.shape).outcome.toOption := by
            unfold Field.value?
            rw [hitem]
            rfl
          rw [hdecoded, hvalue]
          -- An optional field without null was passed over above; here null is refused.
          by_cases hnull : item.isNull = true → f.nullable = true
          · rw [decodeFields_present hitem hnull]
            constructor
            · intro h
              obtain ⟨v, hv, h⟩ := bind_eq_ok.1 h
              obtain ⟨vs, hvs, h⟩ := bind_eq_ok.1 h
              rw [underSegment_eq_ok] at hv
              obtain ⟨hrest, rfl⟩ := ih.1 hvs
              cases h
              rw [hv]
              exact ⟨⟨⟨hnull, v, rfl⟩, hrest⟩, rfl⟩
            · rintro ⟨⟨⟨_, v, hv⟩, hrest⟩, rfl⟩
              rw [hv, underSegment_ok, ok_bind, ih.2 ⟨hrest, rfl⟩]
              rfl
          · obtain ⟨m, hm⟩ : Refused (decodeFields F exact w ref (f :: rest)).outcome := by
              rw [Classical.not_imp, Bool.not_eq_true] at hnull
              exact decodeFields_null hitem hnull.1 hnull.2
            rw [hm]
            constructor
            · intro h
              cases h
            · rintro ⟨⟨⟨h, _⟩, _⟩, _⟩
              exact absurd h hnull

/-- A field is missing, has a null that it does not keep, or has a value that is refused. -/
def Field.IsRefused (F : Family) (exact : Bool) (w : Value) (f : Field) : Prop :=
  match f.item? w with
  | none => f.optional = false
  | some item => item.isNull = true ∧ f.nullable = false ∨
      Refused (decode F exact item f.shape).outcome

/-- The fields of an object are refused only if one of them is. -/
theorem refused_of_fields {ref : ModelRef} {fields : List Field}
    (h : Refused (decodeFields F exact w ref fields).outcome) :
    ∃ f ∈ fields, f.IsRefused F exact w := by
  induction fields with
  | nil =>
      rw [decodeFields] at h
      exact absurd rfl (h.ne_ok [])
  | cons f rest ih =>
      have hrest : Refused (decodeFields F exact w ref rest).outcome →
          ∃ g ∈ f :: rest, g.IsRefused F exact w := fun h => by
        obtain ⟨g, hg, hrefused⟩ := ih h
        exact ⟨g, List.mem_cons_of_mem f hg, hrefused⟩
      by_cases hf : f.IsRefused F exact w
      · exact ⟨f, List.mem_cons_self, hf⟩
      -- A field that is not refused itself leaves the refusal to the others.
      · unfold Field.IsRefused at hf
        split at hf
        · next hitem =>
          rw [decodeFields_absent hitem (Bool.not_eq_false _ ▸ hf)] at h
          exact hrest h
        · next item hitem =>
          rw [not_or, not_and, Bool.not_eq_false] at hf
          rw [decodeFields_present hitem hf.1] at h
          rcases refused_bind_inv h with hfirst | ⟨v, _, h⟩
          · exact absurd (refused_of_underSegment hfirst) hf.2
          · rcases refused_bind_inv h with h | ⟨vs, _, h⟩
            · exact hrest h
            · exact absurd rfl (h.ne_ok _)

/-- The fields of an object are decided if the values that it has for them are. -/
theorem decodeFields_decided {ref : ModelRef} {fields : List Field}
    (h : ∀ f ∈ fields, ∀ item, w.at? f.wire = some item →
      Decided (decode F exact item f.shape).outcome) :
    Decided (decodeFields F exact w ref fields).outcome := by
  induction fields with
  | nil =>
      rw [decodeFields]
      exact decided_ok []
  | cons f rest ih =>
      have hrest := ih fun g hg => h g (List.mem_cons_of_mem f hg)
      cases hitem : f.item? w with
      | none =>
          cases hoptional : f.optional with
          | true =>
              rw [decodeFields_absent hitem hoptional]
              exact hrest
          | false => exact (decodeFields_missing hitem hoptional).decided
      | some item =>
          by_cases hnull : item.isNull = true → f.nullable = true
          · rw [decodeFields_present hitem hnull]
            have hf := h f List.mem_cons_self item (Field.item?_some_iff.1 hitem).1
            refine (hf.underSegment _).bind fun v _ => hrest.bind fun vs _ => decided_ok _
          · rw [Classical.not_imp, Bool.not_eq_true] at hnull
            exact (decodeFields_null hitem hnull.1 hnull.2).decided

/-! ### Records -/

section Record

variable {ref : ModelRef} {m : Model}

/-- An object is decoded field by field and then put together. -/
theorem decode_record_fields {fields : List Field} (hm : F.find? ref = some m)
    (hfields : m.fields.mapM (·.field) = .ok fields) (hw : w.isObject = true) :
    (decode F exact w (.record ref)).outcome =
      ((decodeFields F exact w ref fields).outcome >>= m.assemble F w) := by
  rw [decode, hw, hm]
  simp only [hfields, Bool.not_true, Bool.false_eq_true, if_false, Traced.outcome_bind,
    Traced.outcome_of]

theorem decode_record (hkeyed : m.Keyed) (hm : F.find? ref = some m) (hw : w.isObject = true) :
    (decode F exact w (.record ref)).outcome =
      ((decodeFields F exact w ref (m.fields.map FieldDecl.asField)).outcome >>=
        m.assemble F w) :=
  decode_record_fields hm (Model.fields_eq hkeyed) hw

theorem decode_record_strange (hw : w.isObject = false) :
    Refused (decode F exact w (.record ref)).outcome := by
  rw [decode, hw]
  exact refused_refuse _ _ _

theorem isObject_of_decode (h : (decode F exact w (.record ref)).outcome = .ok v) :
    w.isObject = true := by
  cases hobject : w.isObject with
  | true => rfl
  | false =>
      have hrefused : Refused (decode F exact w (.record ref)).outcome :=
        decode_record_strange hobject
      exact absurd h (hrefused.ne_ok v)

/-- A record of a known model is decoded field by field and then put together. -/
theorem decode_record_known (hm : F.find? ref = some m)
    (h : (decode F exact w (.record ref)).outcome = .ok v) :
    ∃ fields values, (decodeFields F exact w ref fields).outcome = .ok values ∧
      m.assemble F w values = .ok v := by
  cases hfields : m.fields.mapM (·.field) with
  | ok fields =>
      rw [decode_record_fields hm hfields (isObject_of_decode h)] at h
      obtain ⟨values, hvalues, h⟩ := bind_eq_ok.1 h
      exact ⟨fields, values, hvalues, h⟩
  | error e =>
      have hobject := isObject_of_decode h
      rw [decode, hobject, hm] at h
      simp only [hfields] at h
      cases h

/-- A record of no known model has no attributes. -/
theorem decode_record_unknown (hm : F.find? ref = none)
    (h : (decode F exact w (.record ref)).outcome = .ok v) : v = .record ref [] := by
  have hobject := isObject_of_decode h
  rw [decode, hobject, hm] at h
  exact (Except.ok.inj h).symm

/-- Without the field that it begins with, nothing is a record of a model. -/
theorem decode_record_missing (hF : F.Regular) (hm : F.find? ref = some m) {d : FieldDecl}
    {rest : List FieldDecl} (hfields : m.fields = d :: rest) (hnone : d.fallback.isNone = true)
    (hw : w.at? d.wire = none) : Refused (decode F exact w (.record ref)).outcome := by
  cases hobject : w.isObject with
  | false => exact decode_record_strange hobject
  | true =>
      have hd := (hF.model hm).1.fields d (hfields ▸ List.mem_cons_self)
      rw [decode_record (hF.model hm).1.keyed hm hobject, hfields, List.map_cons]
      refine (decodeFields_missing ?_ ?_).bind _
      · rw [Field.item?_none_iff, hd.wire_eq]
        exact .inl hw
      · rw [hd.optional_eq, Option.isNone_iff_eq_none.1 hnone]
        rfl

end Record

/-! ### Forms -/

/-- A JSON value of another form than the values of a shape is refused. -/
theorem decode_refused_of_kind {s : Shape} {k : WireKind} (hw : w.IsJson)
    (hs : s.wireKind? = some k) (hk : w.wireKind? ≠ some k) :
    Refused (decode F exact w s).outcome := by
  cases s with
  | primitive p =>
      rw [decode]
      exact Primitive.accept_refused hs hk
  | enumeration e =>
      rw [decode]
      exact (EnumShape.accept_refused hs hk).bind _
  | record ref =>
      refine decode_record_strange ?_
      cases hs
      cases hw with
      | object => exact absurd rfl hk
      | _ => rfl
  | sequence element =>
      cases hs
      cases hw with
      | list => exact absurd rfl hk
      | _ =>
          rw [decode]
          · exact refused_refuse _ _ _
          · rintro xs ⟨⟩
  | union => cases hs
  | nullable => cases hs
  | any => cases hs

end EditorProtocol
