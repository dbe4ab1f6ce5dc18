import EditorProtocol.Proofs.Codec.Answering
import EditorProtocol.Proofs.Codec.Scalar
import EditorProtocol.Proofs.Shape.Wire

/-!
Plain types, in which payloads are declared. A plain type takes every typed value that conforms to
its shape for itself.
-/

namespace EditorProtocol

variable {F : Family}

/-! ### Conforming values -/

theorem Conforms.isTame {s : Shape} {v : Value} (h : Conforms F s v) : v.IsTame := by
  induction h with
  | null => exact .wire .null
  | text _ s => exact .wire (.text s)
  | boolean _ b => exact .wire (.bool b)
  | integer _ n => exact .wire (.int n)
  | float _ x => exact .wire (.float x)
  | @member e m _ => exact .member m
  | code _ _ json => exact .wire json.isWire
  | any json => exact .wire json.isWire
  | absent => exact .wire .null
  | present _ ih => exact ih
  | list _ ih => exact .list ih
  | union _ _ ih => exact ih
  | record => exact .record _ _

theorem Code.isPlain_inv {c : Code} (h : c.isPlain = true) :
    (∃ n, c = .plain (.int n)) ∨ ∃ s, c = .plain (.text s) := by
  unfold isPlain at h
  split at h
  · exact .inl ⟨_, rfl⟩
  · exact .inr ⟨_, rfl⟩
  · cases h

theorem Value.same_int (n k : Int) : (Value.int n).same (.int k) = true ↔ n = k := by
  simp [same, agrees, text?, numeral?, Numeral.compare?, agrees.sameNaN]

theorem Value.same_text (s t : String) : (Value.text s).same (.text t) = true ↔ s = t := by
  simp [same, agrees, text?]

theorem Family.isKind_self (F : Family) (ref : ModelRef) : F.isKind ref ref = true := by
  unfold isKind
  cases F.models.length with
  | zero => exact beq_self_eq_true ref
  | succ n =>
      rw [isKind.climb, beq_self_eq_true]
      rfl

/-- Whichever of the codes is found that look like a listed one, the value is that of the listed
one, if they have it all. -/
theorem Value.listed_found {codes : List Code} {c : Code} (hlisted : c ∈ codes)
    {alike : Code → Bool} (others rest : Option Code) (b : Breach) (hc : alike c = true)
    (hd : ∀ d ∈ codes, alike d = true → d.value = c.value) :
    (match ((codes.find? alike).or others).or rest with
      | some d => Except.ok (⟨d.value, .exact⟩ : Fitted)
      | none => Rejection.broken c.value b) = .ok ⟨c.value, .exact⟩ := by
  cases hfound : codes.find? alike with
  | none => exact absurd hc (List.find?_eq_none.1 hfound c hlisted)
  | some d =>
      show Except.ok (⟨d.value, .exact⟩ : Fitted) = _
      rw [hd d (List.mem_of_find?_eq_some hfound) (List.find?_some hfound)]

/-- A listed code is taken for itself among plain codes. -/
theorem Value.fitCode_listed {codes : List Code} {c : Code}
    (hplain : codes.all Code.isPlain = true) (hlisted : c ∈ codes) :
    c.value.fitCode codes = .ok ⟨c.value, .exact⟩ := by
  -- Plain codes that look alike are equal, so it does not matter which of them is found.
  rw [List.all_eq_true] at hplain
  unfold fitCode
  rcases Code.isPlain_inv (hplain c hlisted) with ⟨n, rfl⟩ | ⟨s, rfl⟩
  · refine listed_found hlisted _ _ _ ((same_int n n).2 rfl) fun d hd halike => ?_
    rcases Code.isPlain_inv (hplain d hd) with ⟨k, rfl⟩ | ⟨t, rfl⟩
    · rw [(same_int k n).1 halike]
    · cases halike
  · refine listed_found hlisted _ _ _ ((same_text s s).2 rfl) fun d hd halike => ?_
    rcases Code.isPlain_inv (hplain d hd) with ⟨k, rfl⟩ | ⟨t, rfl⟩
    · cases halike
    · rw [(same_text t s).1 halike]

/-- The items of a sequence are taken for themselves if each item is. -/
theorem fitItems_typed {u : TypeExpr} {xs : List Value}
    (h : ∀ x ∈ xs, ∃ fit, u.fit F [] x = .ok ⟨x, fit⟩ ∧ (u.isSharp = true → fit = .exact))
    (i : Nat) :
    ∃ fit, fitItems F i u xs = .ok (fit, xs) ∧ (u.isSharp = true → fit = .exact) := by
  induction xs generalizing i with
  | nil => exact ⟨.exact, by rw [fitItems], fun _ => rfl⟩
  | cons x rest ih =>
      obtain ⟨fit, hx, hexact⟩ := h x List.mem_cons_self
      obtain ⟨others, hrest, hothers⟩ := ih (fun y hy => h y (List.mem_cons_of_mem x hy)) (i + 1)
      refine ⟨Fitted.worst fit others,
        fitItems_cons_iff.2 ⟨⟨x, fit⟩, others, rest, hx, hrest, rfl, rfl⟩, fun hsharp => ?_⟩
      rw [hexact hsharp, hothers hsharp]
      rfl

/-- Null members give nothing to a union. -/
theorem fitFirst_nulls {marks : List Mark} {ts : List TypeExpr} {v : Value} {taken : Fitted}
    (hts : ts.filter (!·.isNull) = []) (failed : List Violation) :
    fitFirst F marks (some taken) failed ts v = .ok taken := by
  induction ts with
  | nil => rw [fitFirst]
  | cons t rest ih =>
      have hnull : t.isNull = true := by
        cases hnull : t.isNull with
        | true => rfl
        | false =>
            rw [List.filter_cons_of_pos (by simp [hnull])] at hts
            cases hts
      rw [List.filter_cons_of_neg (by simp [hnull])] at hts
      rw [fitFirst, if_pos hnull]
      exact ih hts

mutual

/-- A plain type takes every value that conforms to its shape for itself, a sharp one exactly. -/
theorem fit_typed (hF : F.Regular) (t : TypeExpr) {marks : List Mark} {s : Shape} {v : Value}
    (hshape : t.shapeUnder marks = .ok s) (hplain : t.isPlain marks = true)
    (hv : Conforms F s v) :
    ∃ fit, t.fit F marks v = .ok ⟨v, fit⟩ ∧ (t.isSharp = true → fit = .exact) := by
  cases t with
  | marked u own =>
      rw [TypeExpr.fit]
      exact fit_typed hF u hshape hplain hv
  | named name u =>
      rw [TypeExpr.fit]
      exact fit_typed hF u hshape hplain hv
  | any =>
      rw [TypeExpr.fit, TypeExpr.bounded_free hplain]
      exact ⟨_, rfl, fun h => by cases h⟩
  | boolean =>
      cases hshape
      obtain ⟨b, rfl⟩ := hv.boolean_inv rfl
      rw [TypeExpr.fit]
      exact ⟨.exact, TypeExpr.bounded_ok hplain rfl, fun _ => rfl⟩
  | text =>
      cases hshape
      obtain ⟨x, rfl⟩ := hv.text_inv rfl
      rw [TypeExpr.fit]
      exact ⟨.exact, TypeExpr.bounded_ok hplain rfl, fun _ => rfl⟩
  | integer =>
      cases hshape
      obtain ⟨n, rfl, low, high⟩ := hv.integer_inv rfl
      rw [TypeExpr.fit]
      have hkept := Mark.areKept_of_areSimple hplain
      exact ⟨.exact, Value.fitInteger_within hkept low high, fun _ => rfl⟩
  | enumeration type =>
      obtain ⟨e, he, hshape⟩ := bind_eq_ok.1 hshape
      cases hshape
      obtain ⟨hmembers, hne, _⟩ := EnumShape.ofCodes_inv he
      cases hv with
      | @member _ m declared =>
          rw [hmembers] at declared
          rw [TypeExpr.fit]
          refine ⟨.exact, TypeExpr.bounded_ok (Bool.and_eq_true_iff.1 hplain).1 ?_, fun _ => rfl⟩
          exact if_pos (List.contains_iff_mem.2 declared)
      | code members =>
          rw [hmembers] at members
          exact absurd (by rw [members]; rfl) hne
  | literal codes =>
      obtain ⟨e, he, hshape⟩ := bind_eq_ok.1 hshape
      cases hshape
      obtain ⟨hfree, hcodes⟩ := Bool.and_eq_true_iff.1 hplain
      cases hv with
      | @member _ m declared =>
          rw [(EnumShape.ofCodes_inv he).1] at declared
          cases declared
      | code _ listed json =>
          obtain ⟨_, hscalar, rfl⟩ := Codes.admits_inv listed json
          rw [(EnumShape.ofCodes_inv he).2.2] at hscalar
          obtain ⟨c, hc, rfl⟩ := List.mem_map.1 hscalar
          have hvalue : Value.ofScalar c.scalar = c.value := by
            rcases Code.isPlain_inv (List.all_eq_true.1 hcodes c hc) with ⟨n, rfl⟩ | ⟨x, rfl⟩
            · rfl
            · rfl
          rw [TypeExpr.fit, hvalue]
          exact ⟨.exact, TypeExpr.bounded_ok hfree (Value.fitCode_listed hcodes hc), fun _ => rfl⟩
  | sequence u =>
      obtain ⟨element, helement, hshape⟩ := bind_eq_ok.1 hshape
      cases hshape
      obtain ⟨hfree, hu⟩ := Bool.and_eq_true_iff.1 hplain
      cases hv with
      | list items =>
          obtain ⟨fit, hitems, hexact⟩ :=
            fitItems_typed (fun x hx => fit_typed hF u helement hu (items x hx)) 0
          rw [TypeExpr.fit, hitems]
          exact ⟨fit, TypeExpr.bounded_free hfree _, hexact⟩
  | model ref =>
      cases hshape
      cases hv with
      | record model =>
          rw [TypeExpr.fit, if_pos (Family.isKind_self F ref)]
          exact ⟨.exact, TypeExpr.bounded_free hplain _, fun _ => rfl⟩
  | union members barred =>
      obtain ⟨inner, rfl, hinner⟩ := TypeExpr.shapeUnder_union_inv hshape
      rw [TypeExpr.isPlain] at hplain
      rw [TypeExpr.fit]
      split
      · next hnull =>
        obtain rfl := Value.isNull_iff.1 (Bool.and_eq_true_iff.1 hnull).2
        exact ⟨.exact, rfl, fun _ => rfl⟩
      · next hnull =>
        have hvalue : Conforms F inner v := by
          split at hv
          · next hany =>
            cases hv with
            | absent => exact absurd (by rw [hany]; rfl) hnull
            | present value => exact value
          · exact hv
        split
        · next hsingle =>
          rw [if_pos hsingle] at hplain hinner
          exact fitFirst_only hF members hinner hplain hvalue
        · next hsingle =>
          rw [if_neg hsingle] at hplain hinner
          rw [Bool.and_eq_true, Bool.and_eq_true] at hplain
          obtain ⟨shapes, hshapes, rfl⟩ := hinner
          cases hvalue with
          | union listed value =>
              refine ⟨.exact, TypeExpr.bounded_ok hplain.1.1 ?_, fun _ => rfl⟩
              exact fitFirst_typed hF members hshapes hplain.1.2 hplain.2 listed value none []
  | null => cases hplain
  | float => cases hplain
  | list => cases hplain
  | foreign name => cases hplain
  | mapping key value => cases hplain
  | shaped shape => cases hplain

/-- Of the sharp members of a union, the first that takes a value exactly takes it for itself. -/
theorem fitFirst_typed (hF : F.Regular) (ts : List TypeExpr) {marks : List Mark}
    {shapes : List Shape} {s : Shape} {v : Value}
    (hshapes : TypeExpr.shapesUnder marks ts = .ok shapes)
    (hplain : TypeExpr.arePlain marks ts = true) (hsharp : TypeExpr.areSharp ts = true)
    (hs : s ∈ shapes) (hv : Conforms F s v) (best : Option Fitted) (failed : List Violation) :
    fitFirst F marks best failed ts v = .ok ⟨v, .exact⟩ := by
  cases ts with
  | nil =>
      cases hshapes
      cases hs
  | cons t rest =>
      rw [TypeExpr.shapesUnder] at hshapes
      rw [TypeExpr.arePlain, Bool.and_eq_true, Bool.or_eq_true] at hplain
      rw [TypeExpr.areSharp, Bool.and_eq_true] at hsharp
      rw [fitFirst]
      split at hshapes
      · next hnull =>
        rw [if_pos hnull]
        exact fitFirst_typed hF rest hshapes hplain.2 hsharp.2 hs hv best failed
      · next hnull =>
        rw [if_neg hnull]
        have hpt := hplain.1.resolve_left hnull
        obtain ⟨first, hfirst, hshapes⟩ := bind_eq_ok.1 hshapes
        obtain ⟨others, hothers, hshapes⟩ := bind_eq_ok.1 hshapes
        cases hshapes
        rcases List.mem_cons.1 hs with rfl | hs
        · obtain ⟨fit, hfit, hexact⟩ := fit_typed hF t hfirst hpt hv
          rw [hfit, hexact hsharp.1]
          rfl
        -- An earlier member may take the value too: exactly for itself, or else it is outdone.
        · have hrest := fitFirst_typed hF rest hothers hplain.2 hsharp.2 hs hv
          cases hfit : t.fit F marks v with
          | error rejection =>
              have hanswered := fit_answered hF.sound t (t.isSound_of_isPlain true hpt) hv.isTame
              rw [hfit] at hanswered
              cases hanswered with
              | refused vs => exact hrest best _
          | ok taken =>
              show (if taken.fit = .exact then pure taken else _) = _
              split
              · next hexact =>
                obtain ⟨value, fit⟩ := taken
                cases hexact
                cases fit_exact t hsharp.1 hfit rfl
                rfl
              · exact hrest _ failed

/-- The only member of a union beside null takes its own values. -/
theorem fitFirst_only (hF : F.Regular) (ts : List TypeExpr) {marks : List Mark} {s : Shape}
    {v : Value} (hshapes : TypeExpr.shapesUnder marks ts = .ok [s])
    (hplain : TypeExpr.arePlain marks ts = true) (hv : Conforms F s v) :
    ∃ fit, fitFirst F marks none [] ts v = .ok ⟨v, fit⟩ ∧
      (TypeExpr.areSharp ts = true → fit = .exact) := by
  cases ts with
  | nil => cases hshapes
  | cons t rest =>
      rw [TypeExpr.shapesUnder] at hshapes
      rw [TypeExpr.arePlain, Bool.and_eq_true, Bool.or_eq_true] at hplain
      rw [TypeExpr.areSharp, fitFirst]
      split at hshapes
      · next hnull =>
        rw [if_pos hnull]
        obtain ⟨fit, hfit, hexact⟩ := fitFirst_only hF rest hshapes hplain.2 hv
        exact ⟨fit, hfit, fun hsharp => hexact (Bool.and_eq_true_iff.1 hsharp).2⟩
      · next hnull =>
        rw [if_neg hnull]
        obtain ⟨first, hfirst, hshapes⟩ := bind_eq_ok.1 hshapes
        obtain ⟨others, hothers, hshapes⟩ := bind_eq_ok.1 hshapes
        cases hshapes
        obtain ⟨fit, hfit, hexact⟩ := fit_typed hF t hfirst (hplain.1.resolve_left hnull) hv
        refine ⟨fit, ?_, fun hsharp => hexact (Bool.and_eq_true_iff.1 hsharp).1⟩
        -- One shape in all, so the other members are null and give nothing.
        have hnulls : rest.filter (!·.isNull) = [] :=
          List.length_eq_zero_iff.1 (TypeExpr.shapesUnder_length hothers).symm
        rw [hfit]
        show (if fit = .exact then pure _ else _) = _
        split
        · rfl
        · exact fitFirst_nulls hnulls []

end

end EditorProtocol
