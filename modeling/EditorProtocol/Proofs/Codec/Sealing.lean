import EditorProtocol.Proofs.Codec.Encoding
import EditorProtocol.Proofs.Codec.Soundness

/-!
What is written passes validation. A plain type takes every JSON value that was written for its
shape, although not always for itself: codes are taken for members and objects for records.
-/

namespace EditorProtocol

variable {F : Family}

/-! ### Members -/

/-- The code of a member of a readable enumeration is taken for a member. -/
theorem fitMember_code {type : EnumType} (hreadable : type.isReadable = true) {m : EnumMember}
    (hm : m ∈ type.members) {name : String} {e : EnumShape}
    (he : EnumShape.ofCodes name (type.members.map (·.code)) type.members = .ok e) :
    ∃ r, (Value.ofScalar m.code).fitMember type = .ok r := by
  have hfind (hsame : (Value.ofScalar m.code).same (.ofScalar m.code) = true) :
      ∃ k, type.members.find? (fun k => (Value.ofScalar k.code).same (.ofScalar m.code)) =
        some k :=
    Option.isSome_iff_exists.1 (List.find?_isSome.2 ⟨m, hm, hsame⟩)
  have hm' := List.all_eq_true.1 hreadable m hm
  unfold Value.fitMember
  have hscalar : m.code ∈ e.codes.scalars := by
    rw [(EnumShape.ofCodes_inv he).2.2]
    exact List.mem_map_of_mem hm
  rcases Codes.scalar_inv hscalar with ⟨n, hcode⟩ | ⟨x, hcode⟩
  · rw [hcode] at hfind hm' ⊢
    obtain ⟨k, hk⟩ := hfind ((Value.same_int n n).2 rfl)
    simp only [Value.ofScalar] at hk ⊢
    unfold Value.fitMember.byCode
    cases hbase : type.base with
    | plain =>
        dsimp only
        rw [hk]
        exact ⟨_, rfl⟩
    | integer =>
        rw [hbase] at hm'
        have hrange := of_decide_eq_true hm'
        dsimp only [Value.integer?]
        rw [if_neg (by omega), hk]
        exact ⟨_, rfl⟩
    | text =>
        rw [hbase] at hm'
        cases hm'
  · rw [hcode] at hfind hm' ⊢
    obtain ⟨k, hk⟩ := hfind ((Value.same_text x x).2 rfl)
    simp only [Value.ofScalar] at hk ⊢
    unfold Value.fitMember.byCode
    cases hbase : type.base with
    | plain =>
        dsimp only
        rw [hk]
        exact ⟨_, rfl⟩
    | text =>
        dsimp only [Value.fitText]
        rw [hk]
        exact ⟨_, rfl⟩
    | integer =>
        rw [hbase] at hm'
        cases hm'

/-! ### Unions and sequences -/

/-- A union takes what one of its members takes, if the others take or refuse it. -/
theorem fitFirst_takes {marks : List Mark} {v : Value} {ts : List TypeExpr}
    (hanswered : ∀ t ∈ ts, t.isNull = false → Answered (t.fit F marks v)) (best : Option Fitted)
    (failed : List Violation)
    (h : best.isSome = true ∨ ∃ t ∈ ts, t.isNull = false ∧ ∃ r, t.fit F marks v = .ok r) :
    ∃ r, fitFirst F marks best failed ts v = .ok r := by
  induction ts generalizing best failed with
  | nil =>
      rcases h with hbest | ⟨t, ht, _⟩
      · obtain ⟨b, rfl⟩ := Option.isSome_iff_exists.1 hbest
        exact ⟨b, by rw [fitFirst]⟩
      · cases ht
  | cons t rest ih =>
      have hrest := fun u hu => hanswered u (List.mem_cons_of_mem t hu)
      rw [fitFirst]
      split
      · next hnull =>
        refine ih hrest best failed (h.imp_right ?_)
        rintro ⟨u, hu, hkept, hr⟩
        rcases List.mem_cons.1 hu with rfl | hu
        · rw [hkept] at hnull
          cases hnull
        · exact ⟨u, hu, hkept, hr⟩
      · next hnull =>
        obtain ⟨first, hfirst⟩ :=
          (hanswered t List.mem_cons_self (Bool.eq_false_iff.2 hnull)).collect
        rw [hfirst, ok_bind]
        cases first with
        | ok taken =>
            dsimp only
            split
            · exact ⟨taken, rfl⟩
            · exact ih hrest _ failed (.inl rfl)
        | error vs =>
            refine ih hrest best _ (h.imp_right ?_)
            rintro ⟨u, hu, hkept, r, hr⟩
            rcases List.mem_cons.1 hu with rfl | hu
            · rw [hr] at hfirst
              cases hfirst
            · exact ⟨u, hu, hkept, r, hr⟩

theorem fitItems_takes {u : TypeExpr} {xs : List Value}
    (h : ∀ x ∈ xs, ∃ r, u.fit F [] x = .ok r) (i : Nat) : ∃ r, fitItems F i u xs = .ok r := by
  induction xs generalizing i with
  | nil => exact ⟨_, by rw [fitItems]⟩
  | cons x rest ih =>
      obtain ⟨y, hy⟩ := h x List.mem_cons_self
      obtain ⟨⟨others, ys⟩, hrest⟩ := ih (fun z hz => h z (List.mem_cons_of_mem x hz)) (i + 1)
      exact ⟨_, fitItems_cons_iff.2 ⟨y, others, ys, hy, hrest, rfl, rfl⟩⟩

/-! ### Written values -/

/-- What is written for a primitive conforms to it, so the type takes it for itself. -/
theorem fit_primitive (hF : F.Regular) (t : TypeExpr) {marks : List Mark} {p : Primitive}
    {v w : Value} (hshape : t.shapeUnder marks = .ok (.primitive p))
    (hplain : t.isPlain marks = true) (hs : (Shape.primitive p).isRegular F = true)
    (h : encode F v (.primitive p) = .ok w) : ∃ r, t.fit F marks w = .ok r := by
  have hfloat : p.kind ≠ .float := by simpa [Shape.isRegular] using hs
  rw [encode] at h
  obtain ⟨hconforms, _⟩ := Primitive.accept_inv (F := F) hfloat h
  obtain ⟨fit, hfit, _⟩ := fit_typed hF t hshape hplain hconforms
  exact ⟨_, hfit⟩

mutual

/-- A plain type takes what is written for a value of its shape. -/
theorem fit_encoded (hF : F.Regular) (t : TypeExpr) {marks : List Mark} {s : Shape} {v w : Value}
    (hshape : t.shapeUnder marks = .ok s) (hplain : t.isPlain marks = true)
    (hs : s.isRegular F = true) (h : encode F v s = .ok w) (hw : w.IsJson) :
    ∃ r, t.fit F marks w = .ok r := by
  cases t with
  | marked u own =>
      rw [TypeExpr.fit]
      exact fit_encoded hF u hshape hplain hs h hw
  | named name u =>
      rw [TypeExpr.fit]
      exact fit_encoded hF u hshape hplain hs h hw
  | any =>
      rw [TypeExpr.fit, TypeExpr.bounded_free hplain]
      exact ⟨_, rfl⟩
  | boolean =>
      cases hshape
      exact fit_primitive hF .boolean rfl hplain hs h
  | text =>
      cases hshape
      exact fit_primitive hF .text rfl hplain hs h
  | integer =>
      cases hshape
      exact fit_primitive hF .integer rfl hplain hs h
  | enumeration type =>
      obtain ⟨e, he, hshape⟩ := bind_eq_ok.1 hshape
      cases hshape
      obtain ⟨hfree, hreadable⟩ := Bool.and_eq_true_iff.1 hplain
      rw [encode] at h
      obtain ⟨rfl, hadmits⟩ := EnumShape.accept_ok_iff.1 h
      obtain ⟨_, hscalar, heq⟩ := Codes.admits_inv hadmits hw
      rw [(EnumShape.ofCodes_inv he).2.2] at hscalar
      obtain ⟨m, hm, rfl⟩ := List.mem_map.1 hscalar
      obtain ⟨r, hr⟩ := fitMember_code hreadable hm he
      rw [TypeExpr.fit, heq]
      exact ⟨r, TypeExpr.bounded_ok hfree hr⟩
  | literal codes =>
      have hshape' := hshape
      obtain ⟨e, he, hshape'⟩ := bind_eq_ok.1 hshape'
      cases hshape'
      rw [encode] at h
      obtain ⟨rfl, hadmits⟩ := EnumShape.accept_ok_iff.1 h
      obtain ⟨fit, hfit, _⟩ := fit_typed (F := F) hF (.literal codes) hshape hplain
        (.code (EnumShape.ofCodes_inv he).1 hadmits hw)
      exact ⟨_, hfit⟩
  | sequence u =>
      obtain ⟨element, helement, hshape⟩ := bind_eq_ok.1 hshape
      cases hshape
      obtain ⟨hfree, hu⟩ := Bool.and_eq_true_iff.1 hplain
      obtain ⟨xs, ws, rfl, hws⟩ := encode_sequence_inv h
      have hjson : ∀ x ∈ ws, x.IsJson := by
        cases hw with
        | list items => exact items
      obtain ⟨⟨fit, ys⟩, htaken⟩ := fitItems_takes (fun x hx => by
        obtain ⟨y, _, hy⟩ := exists_of_forall₂ hws hx
        exact fit_encoded hF u helement hu hs hy (hjson x hx)) 0
      rw [TypeExpr.fit, htaken]
      exact ⟨_, TypeExpr.bounded_free hfree _⟩
  | model ref =>
      cases hshape
      obtain ⟨m, hm⟩ := Option.isSome_iff_exists.1 hs
      -- What is written for a record was validated already when it was sealed.
      obtain ⟨_, _, entries, u, _, rfl, _, hu⟩ := encode_record_inv (hF.model hm).1.keyed hm h
      rw [m.validate_eq rfl] at hu
      obtain ⟨taken, htaken, hu⟩ := bind_eq_ok.1 hu
      rw [fit_object hm rfl, htaken, ok_bind, hu, ok_bind]
      exact ⟨_, TypeExpr.bounded_free hplain _⟩
  | union members barred =>
      obtain ⟨inner, rfl, hinner⟩ := TypeExpr.shapeUnder_union_inv hshape
      rw [TypeExpr.isPlain] at hplain
      rw [TypeExpr.fit]
      split
      · exact ⟨_, rfl⟩
      · next hnull =>
        -- A null is written only where null is a member, and there it was taken already.
        have hvalue : inner.isRegular F = true ∧ encode F v inner = .ok w := by
          split at h
          · next hany =>
            rw [if_pos hany] at hs
            rw [encode] at h
            split at h
            · cases h
              exact absurd (by rw [hany]; rfl) hnull
            · exact ⟨hs, h⟩
          · next hany =>
            rw [if_neg hany] at hs
            exact ⟨hs, h⟩
        obtain ⟨hs, h⟩ := hvalue
        have hanswered : ∀ {outer : List Mark}, TypeExpr.arePlain outer members = true →
            ∀ t ∈ members, t.isNull = false → Answered (t.fit F outer w) := by
          intro outer hplain t ht hkept
          have hsound := TypeExpr.areSound_of_arePlain members true hplain
          exact fit_answered hF.sound t (TypeExpr.areSound_mem hsound ht hkept) (.wire hw.isWire)
        split
        · next hsingle =>
          rw [if_pos hsingle] at hplain hinner
          exact fitFirst_takes (hanswered hplain) none []
            (.inr (member_encoded hF members hinner hplain List.mem_cons_self hs h hw))
        · next hsingle =>
          rw [if_neg hsingle] at hplain hinner
          rw [Bool.and_eq_true, Bool.and_eq_true] at hplain
          obtain ⟨shapes, hshapes, rfl⟩ := hinner
          rw [Shape.isRegular, Bool.and_eq_true] at hs
          obtain ⟨s, hmem, hs'⟩ := encode_union_inv h
          have hregular := Shape.areRegular_mem hs.1 hmem
          obtain ⟨r, hr⟩ := fitFirst_takes (hanswered hplain.1.2) none []
            (.inr (member_encoded hF members hshapes hplain.1.2 hmem hregular hs' hw))
          exact ⟨r, TypeExpr.bounded_ok hplain.1.1 hr⟩
  | null => cases hplain
  | float => cases hplain
  | list => cases hplain
  | foreign name => cases hplain
  | mapping key value => cases hplain
  | shaped shape => cases hplain

/-- One of the members of a union takes what is written for one of its shapes. -/
theorem member_encoded (hF : F.Regular) (ts : List TypeExpr) {marks : List Mark}
    {shapes : List Shape} {s : Shape} {v w : Value}
    (hshapes : TypeExpr.shapesUnder marks ts = .ok shapes)
    (hplain : TypeExpr.arePlain marks ts = true) (hmem : s ∈ shapes)
    (hs : s.isRegular F = true) (h : encode F v s = .ok w) (hw : w.IsJson) :
    ∃ t ∈ ts, t.isNull = false ∧ ∃ r, t.fit F marks w = .ok r := by
  cases ts with
  | nil =>
      cases hshapes
      cases hmem
  | cons t rest =>
      rw [TypeExpr.shapesUnder] at hshapes
      rw [TypeExpr.arePlain, Bool.and_eq_true, Bool.or_eq_true] at hplain
      split at hshapes
      · obtain ⟨u, hu, htaken⟩ := member_encoded hF rest hshapes hplain.2 hmem hs h hw
        exact ⟨u, List.mem_cons_of_mem t hu, htaken⟩
      · next hnull =>
        obtain ⟨first, hfirst, hshapes⟩ := bind_eq_ok.1 hshapes
        obtain ⟨others, hothers, hshapes⟩ := bind_eq_ok.1 hshapes
        cases hshapes
        rcases List.mem_cons.1 hmem with rfl | hmem
        · exact ⟨t, List.mem_cons_self, Bool.eq_false_iff.2 hnull,
            fit_encoded hF t hfirst (hplain.1.resolve_left hnull) hs h hw⟩
        · obtain ⟨u, hu, htaken⟩ := member_encoded hF rest hothers hplain.2 hmem hs h hw
          exact ⟨u, List.mem_cons_of_mem t hu, htaken⟩

end

end EditorProtocol
