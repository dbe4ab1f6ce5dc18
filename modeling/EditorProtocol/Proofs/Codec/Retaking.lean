import EditorProtocol.Proofs.Codec.Loudness
import EditorProtocol.Proofs.Codec.Reading
import EditorProtocol.Proofs.Codec.Sealing

/-!
What validation takes on the wire, it takes again once it is decoded. Integers, members and records
are what they were on the wire or are taken for themselves. Where several types are possible, the
value may be decoded under another type than the one that took it on the wire; then the bounds and
codes of a sound type make sure that its own values are taken.
-/

namespace EditorProtocol

variable {F : Family} {exact : Bool}

/-! ### Scalars -/

namespace Value

variable {v w : Value}

/-- Values that are the same integer are equal. -/
theorem same_of_integer? {n : Int} (hv : v.integer? = some n) (hw : w.integer? = some n) :
    v.same w = true := by
  unfold integer? at hv hw
  split at hv
  · cases hv
    split at hw
    · cases hw
      exact (same_int n n).2 rfl
    · cases hw
      simp [same, agrees, text?, numeral?, Numeral.compare?]
    · cases hw
  · cases hv
    split at hw
    · cases hw
      simp [same, agrees, text?, numeral?, Numeral.compare?]
    · cases hw
      simp [same, agrees, text?, numeral?, Numeral.compare?]
    · cases hw
  · cases hv

/-- Values that are the same text are equal. -/
theorem same_of_text? {s : String} (hv : v.text? = some s) (hw : w.text? = some s) :
    v.same w = true := by
  unfold text? at hv hw
  split at hv
  · cases hv
    split at hw
    · cases hw
      exact (same_text s s).2 rfl
    · cases hw
      simp [same, agrees, text?]
    · cases hw
  · cases hv
    split at hw
    · cases hw
      simp [same, agrees, text?]
    · cases hw
      simp [same, agrees, text?]
    · cases hw
  · cases hv

/-- If a value that is an integer is taken within bounds, so is the integer itself. -/
theorem fitInteger_retaken {marks : List Mark} {n : Int} {r : Fitted} (hv : v.integer? = some n)
    (h : v.fitInteger marks = .ok r) : ∃ r, (Value.int n).fitInteger marks = .ok r := by
  have hbreach : Mark.breach? marks (fun b => some (Ord.compare n b)) = none := by
    unfold fitInteger at h
    split at h
    · cases hv
      dsimp only at h
      split at h
      · cases h
      · next hnone => exact hnone
    · next k _ hk =>
      cases Option.some.inj (hv.symm.trans hk)
      dsimp only at h
      split at h
      · cases h
      · next hnone => exact hnone
    · next _ hnone => cases hv.symm.trans hnone
  refine ⟨⟨.int n, .exact⟩, ?_⟩
  unfold fitInteger
  simp only [hbreach]

theorem fitFloat_free {marks : List Mark} (hfree : marks.all Mark.isFree = true) (x : Double) :
    (Value.float x).fitFloat marks = .ok ⟨.float x, .exact⟩ := by
  have hbreach : Mark.breach? marks x.compareInt = none := by
    unfold Mark.breach?
    rw [List.findSome?_eq_none_iff]
    intro kind _
    have hnone : marks.filterMap kind.bound? = [] := by
      rw [List.filterMap_eq_nil_iff]
      exact fun m hm => Mark.bound?_free (List.all_eq_true.1 hfree m hm) kind
    rw [hnone]
    rfl
  have hread : (Given.ofValue (.float x)).readFloat = .ok x := rfl
  unfold fitFloat
  simp only [hread, hbreach]

/-- A value that equals a listed code is taken for one. -/
theorem fitCode_of_same {codes : List Code} {c : Code} (hc : c ∈ codes)
    (h : c.value.same v = true) : ∃ r, v.fitCode codes = .ok r := by
  have hfound : (codes.find? fun c => c.value.same v).isSome = true :=
    List.find?_isSome.2 ⟨c, hc, h⟩
  unfold fitCode
  simp only
  split
  · exact ⟨_, rfl⟩
  · next hnone =>
    rw [Option.or_eq_none_iff] at hnone
    rw [hnone.2] at hfound
    cases hfound

end Value

/-- A value is admitted by the code that it is equal to. -/
theorem Codes.exists_admitting {codes : Codes} {w : Value} (h : codes.admits w = true) :
    ∃ c ∈ codes.scalars, (∃ n, c = .int n ∧ w.integer? = some n) ∨
      ∃ s, c = .text s ∧ w.text? = some s := by
  cases codes with
  | integers ns =>
      obtain ⟨n, hn, hmem⟩ := (Option.any_eq_true _ _).1 h
      exact ⟨.int n, List.mem_map_of_mem (List.contains_iff_mem.1 hmem), .inl ⟨n, rfl, hn⟩⟩
  | texts ss =>
      obtain ⟨s, hs, hmem⟩ := (Option.any_eq_true _ _).1 h
      exact ⟨.text s, List.mem_map_of_mem (List.contains_iff_mem.1 hmem), .inr ⟨s, rfl, hs⟩⟩

/-- Where the codes are those of members, one of them is decoded to a member. -/
theorem EnumShape.decode_member {e : EnumShape} {w u : Value}
    (hcodes : e.codes.scalars = e.members.map (·.code)) (h : e.decode w = .ok u) :
    ∃ m ∈ e.members, u = .member m := by
  unfold decode at h
  obtain ⟨code, hcode, hu⟩ := bind_eq_ok.1 h
  obtain ⟨rfl, hadmits⟩ := accept_ok_iff.1 hcode
  cases hu
  obtain ⟨c, hc, hvalue⟩ := Codes.exists_admitting hadmits
  rw [hcodes] at hc
  obtain ⟨m, hm, rfl⟩ := List.mem_map.1 hc
  have hsame : (Value.ofScalar m.code).same code = true := by
    rcases hvalue with ⟨n, hcode, hn⟩ | ⟨s, hcode, hs⟩
    · rw [hcode]
      exact Value.same_of_integer? rfl hn
    · rw [hcode]
      exact Value.same_of_text? rfl hs
  have hfound : (e.memberOf? code).isSome = true := List.find?_isSome.2 ⟨m, hm, hsame⟩
  obtain ⟨k, hk⟩ := Option.isSome_iff_exists.1 hfound
  rw [hk]
  exact ⟨k, List.mem_of_find?_eq_some hk, rfl⟩

/-- Codes that are numbers or texts wherever they are met are equal to the values that they
admit. -/
theorem Code.same_of_isBased {c : Code} {w : Value} (hbased : c.isBased = true)
    (h : (∃ n, c.scalar = .int n ∧ w.integer? = some n) ∨
      ∃ s, c.scalar = .text s ∧ w.text? = some s) : c.value.same w = true := by
  cases c with
  | plain code =>
      rcases h with ⟨n, hcode, hn⟩ | ⟨s, hcode, hs⟩
      · cases hcode
        exact Value.same_of_integer? rfl hn
      · cases hcode
        exact Value.same_of_text? rfl hs
  | member m =>
      obtain ⟨enumeration, base, name, code⟩ := m
      rcases h with ⟨n, hcode, hn⟩ | ⟨s, hcode, hs⟩
      · cases hcode
        cases base with
        | integer => exact Value.same_of_integer? rfl hn
        | plain => cases hbased
        | text => cases hbased
      · cases hcode
        cases base with
        | text => exact Value.same_of_text? rfl hs
        | plain => cases hbased
        | integer => cases hbased

/-! ### Parts -/

/-- The items of a sequence that is taken are. -/
theorem fitItems_taken {u : TypeExpr} {i : Nat} {xs : List Value} {taken : Fit × List Value}
    (h : fitItems F i u xs = .ok taken) : ∀ x ∈ xs, ∃ r, u.fit F [] x = .ok r := by
  induction xs generalizing i taken with
  | nil => exact List.forall_mem_nil _
  | cons x rest ih =>
      obtain ⟨y, _, _, hx, hrest, _⟩ := fitItems_cons_iff.1 h
      exact List.forall_mem_cons.2 ⟨⟨y, hx⟩, ih hrest⟩

theorem fitFirst_none {marks : List Mark} {ts : List TypeExpr} {v : Value} {r : Fitted}
    (hts : ts.filter (!·.isNull) = []) (failed : List Violation) :
    fitFirst F marks none failed ts v ≠ .ok r := by
  induction ts with
  | nil =>
      rw [fitFirst]
      exact nofun
  | cons t rest ih =>
      rw [List.filter_cons] at hts
      split at hts
      · cases hts
      · next hnull =>
        rw [fitFirst, if_pos (by simpa using hnull)]
        exact ih hts

/-- A value that is taken by a union with one member besides null is taken by this member. -/
theorem fitFirst_taken {marks : List Mark} {ts : List TypeExpr} {v : Value} {r : Fitted}
    (hsingle : (ts.filter (!·.isNull)).length = 1) {failed : List Violation}
    (h : fitFirst F marks none failed ts v = .ok r) :
    ∀ t ∈ ts, t.isNull = false → ∃ r, t.fit F marks v = .ok r := by
  induction ts with
  | nil => cases hsingle
  | cons t rest ih =>
      rw [List.filter_cons] at hsingle
      rcases fitFirst_cons_inv h with ⟨hnull, h⟩ | ⟨hnull, h⟩
      · rw [if_neg (by simp [hnull])] at hsingle
        refine List.forall_mem_cons.2 ⟨fun hkept => ?_, ih hsingle h⟩
        rw [hnull] at hkept
        cases hkept
      · rw [if_pos (by simp [hnull]), List.length_cons] at hsingle
        have hnil : rest.filter (!·.isNull) = [] := List.length_eq_zero_iff.1 (by omega)
        have hothers : ∀ u ∈ rest, u.isNull = false → ∃ r, u.fit F marks v = .ok r := by
          intro u hu hkept
          have := List.filter_eq_nil_iff.1 hnil u hu
          rw [hkept] at this
          exact absurd rfl this
        refine List.forall_mem_cons.2 ⟨fun _ => ?_, hothers⟩
        rcases h with ⟨vs, h⟩ | ⟨taken, ht, _⟩
        · exact absurd h (fitFirst_none hnil _)
        · exact ⟨taken, ht⟩

/-! ### Decoded values -/

theorem accepts_of_read {p : Primitive} {w u : Value}
    (h : (decode F exact w (.primitive p)).outcome = .ok u) : p.Accepts w u := by
  rw [decode, Traced.outcome_of] at h
  exact Primitive.accepts_of_accept h

/-- A type takes a decoded record. -/
theorem fit_record_read (hF : F.Sound) {ref : ModelRef} {marks : List Mark} {w u : Value}
    (hfree : marks.all Mark.isFree = true)
    (hread : (decode F exact w (.record ref)).outcome = .ok u) :
    ∃ r, (TypeExpr.model ref).fit F marks u = .ok r := by
  obtain ⟨slots, rfl⟩ : ∃ slots, u = .record ref slots := by
    cases hfind : F.find? ref with
    | none =>
        have hobject := isObject_of_decode hread
        rw [decode, hobject, hfind] at hread
        exact ⟨[], (Except.ok.inj hread).symm⟩
    | some m =>
        obtain ⟨_, slots, rfl, _⟩ := decode_record_inv (hF.model hfind).1.keyed hfind hread
        exact ⟨slots, by rw [(hF.model hfind).2]⟩
  rw [TypeExpr.fit, if_pos (Family.isKind_self F ref)]
  exact ⟨_, TypeExpr.bounded_free hfree _⟩

/-- A type takes a decoded member of its enumeration. -/
theorem fit_member_read {type : EnumType} {e : EnumShape} {marks : List Mark} {w u : Value}
    (he : EnumShape.ofCodes type.name (type.members.map (·.code)) type.members = .ok e)
    (hfree : marks.all Mark.isFree = true)
    (hread : (decode F exact w (.enumeration e)).outcome = .ok u) :
    ∃ r, (TypeExpr.enumeration type).fit F marks u = .ok r := by
  obtain ⟨hmembers, _, hcodes⟩ := EnumShape.ofCodes_inv he
  rw [decode, Traced.outcome_of] at hread
  obtain ⟨m, hm, rfl⟩ := EnumShape.decode_member (by rw [hcodes, hmembers]) hread
  rw [hmembers] at hm
  rw [TypeExpr.fit]
  exact ⟨_, TypeExpr.bounded_ok hfree (if_pos (List.contains_iff_mem.2 hm))⟩

/-- Listed codes are decoded to what stood on the wire, which is equal to one of them if all are
numbers or texts wherever they are met. -/
theorem fit_listed_read {codes : List Code} {e : EnumShape} {marks : List Mark} {w u : Value}
    (he : EnumShape.ofCodes "Literal" (codes.map Code.scalar) [] = .ok e)
    (hfree : marks.all Mark.isFree = true)
    (hread : (decode F exact w (.enumeration e)).outcome = .ok u) :
    u = w ∧
      (codes.all Code.isBased = true → ∃ r, (TypeExpr.literal codes).fit F marks w = .ok r) := by
  obtain ⟨hmembers, _, hcodes⟩ := EnumShape.ofCodes_inv he
  rw [decode, Traced.outcome_of] at hread
  obtain ⟨code, hcode, hu⟩ := bind_eq_ok.1 hread
  obtain ⟨rfl, hadmits⟩ := EnumShape.accept_ok_iff.1 hcode
  rw [EnumShape.memberOf?_nil hmembers] at hu
  cases hu
  refine ⟨rfl, fun hbased => ?_⟩
  obtain ⟨c, hc, hvalue⟩ := Codes.exists_admitting hadmits
  rw [hcodes] at hc
  obtain ⟨listed, hlisted, rfl⟩ := List.mem_map.1 hc
  have hsame := Code.same_of_isBased (List.all_eq_true.1 hbased listed hlisted) hvalue
  obtain ⟨r, hr⟩ := Value.fitCode_of_same hlisted hsame
  rw [TypeExpr.fit]
  exact ⟨r, TypeExpr.bounded_ok hfree hr⟩

/-- Only null is decoded to null in place of the members of a union. -/
theorem decode_present_inv {members : List TypeExpr} {inner : Shape} {w u : Value}
    (hpresent : ¬(members.any (·.isNull) && u.isNull) = true)
    (hread : (decode F exact w
      (if members.any (·.isNull) then .nullable inner else inner)).outcome = .ok u) :
    (decode F exact w inner).outcome = .ok u ∧ ¬(members.any (·.isNull) && w.isNull) = true := by
  split at hread
  · next hany =>
    rw [decode] at hread
    split at hread
    · cases hread
      exact absurd (by rw [hany]; rfl) hpresent
    · next hw => exact ⟨hread, fun h => hw (Bool.and_eq_true_iff.1 h).2⟩
  · next hany => exact ⟨hread, fun h => hany (Bool.and_eq_true_iff.1 h).1⟩

mutual

/-- A type takes what a wire value is decoded to under its shape, provided that it took the wire
value, or that it is sound in a choice. -/
theorem fit_read (hF : F.Sound) (t : TypeExpr) {choice : Bool} {marks : List Mark} {s : Shape}
    {w u : Value} (hshape : t.shapeUnder marks = .ok s) (hsound : t.isSound choice marks = true)
    (hw : w.IsWire) (hread : (decode F exact w s).outcome = .ok u)
    (htaken : choice = true ∨ ∃ r, t.fit F marks w = .ok r) : ∃ r, t.fit F marks u = .ok r := by
  cases t with
  | marked t own =>
      rw [TypeExpr.fit] at htaken ⊢
      exact fit_read hF t hshape hsound hw hread htaken
  | named name t =>
      rw [TypeExpr.fit] at htaken ⊢
      exact fit_read hF t hshape hsound hw hread htaken
  | any =>
      rw [TypeExpr.fit, TypeExpr.bounded_free hsound]
      exact ⟨_, rfl⟩
  | null =>
      cases hshape
      cases accepts_of_read hread with
      | null => exact ⟨_, by rw [TypeExpr.fit]; exact TypeExpr.bounded_ok hsound rfl⟩
      | _ kind => cases kind
  | boolean =>
      cases hshape
      cases accepts_of_read hread with
      | boolean => exact ⟨_, by rw [TypeExpr.fit]; exact TypeExpr.bounded_ok hsound rfl⟩
      | _ kind => cases kind
  | text =>
      cases hshape
      cases accepts_of_read hread with
      | text => exact ⟨_, by rw [TypeExpr.fit]; exact TypeExpr.bounded_ok hsound rfl⟩
      | _ kind => cases kind
  | float =>
      cases hshape
      cases accepts_of_read hread with
      | float => exact ⟨_, by rw [TypeExpr.fit]; exact Value.fitFloat_free hsound _⟩
      | nearest => exact ⟨_, by rw [TypeExpr.fit]; exact Value.fitFloat_free hsound _⟩
      | _ kind => cases kind
  | integer =>
      cases hshape
      cases accepts_of_read hread with
      | integer _ hinteger low high =>
          rw [TypeExpr.fit] at htaken ⊢
          rcases htaken with rfl | ⟨r, hr⟩
          · exact ⟨_, Value.fitInteger_within hsound low high⟩
          · exact Value.fitInteger_retaken hinteger hr
      | _ kind => cases kind
  | enumeration type =>
      obtain ⟨e, he, hshape⟩ := bind_eq_ok.1 hshape
      cases hshape
      exact fit_member_read he hsound hread
  | literal codes =>
      obtain ⟨e, he, hshape⟩ := bind_eq_ok.1 hshape
      cases hshape
      obtain ⟨hfree, hbased⟩ := Bool.and_eq_true_iff.1 hsound
      obtain ⟨rfl, hlisted⟩ := fit_listed_read he hfree hread
      rcases htaken with rfl | htaken
      · exact hlisted hbased
      · exact htaken
  | list =>
      cases hshape
      obtain ⟨_, _, _, rfl, _⟩ := decode_sequence_inv hread
      rw [TypeExpr.fit]
      exact ⟨_, TypeExpr.bounded_free hsound _⟩
  | sequence t =>
      obtain ⟨element, helement, hshape⟩ := bind_eq_ok.1 hshape
      cases hshape
      obtain ⟨hfree, ht⟩ := Bool.and_eq_true_iff.1 hsound
      obtain ⟨xs, vs, rfl, rfl, hvs⟩ := decode_sequence_inv hread
      have hitem : ∀ x ∈ xs, choice = true ∨ ∃ r, t.fit F [] x = .ok r := by
        intro x hx
        refine htaken.imp_right ?_
        rintro ⟨r, hr⟩
        rw [TypeExpr.fit] at hr
        obtain ⟨_, hitems, _⟩ := bind_eq_ok.1 hr
        exact fitItems_taken hitems x hx
      cases hw with
      | list items =>
          obtain ⟨taken, hitems⟩ := fitItems_takes (fun v hv => by
            obtain ⟨x, hx, hdecode⟩ := exists_of_forall₂ hvs hv
            exact fit_read hF t helement ht (items x hx) hdecode (hitem x hx)) 0
          rw [TypeExpr.fit, hitems]
          exact ⟨_, TypeExpr.bounded_free hfree _⟩
  | model ref =>
      cases hshape
      exact fit_record_read hF hsound hread
  | union members barred =>
      have hutame := decode_tame hF hw hread
      obtain ⟨inner, rfl, hinner⟩ := TypeExpr.shapeUnder_union_inv hshape
      rw [TypeExpr.isSound] at hsound
      rw [TypeExpr.fit] at htaken ⊢
      split
      · exact ⟨_, rfl⟩
      · next hnull =>
        obtain ⟨hread, hpresent⟩ := decode_present_inv hnull hread
        rw [if_neg hpresent] at htaken
        split
        · next hsingle =>
          rw [if_pos hsingle] at hsound hinner htaken
          obtain ⟨t, ht, hkept, hr⟩ := member_read hF members hinner hsound List.mem_cons_self hw
            hread (htaken.imp_right fun ⟨r, hr⟩ => fitFirst_taken (beq_iff_eq.1 hsingle) hr)
          exact fitFirst_takes (fun t ht hkept =>
            fit_answered hF t (TypeExpr.areSound_mem hsound ht hkept) hutame) none []
            (.inr ⟨t, ht, hkept, hr⟩)
        · next hsingle =>
          rw [if_neg hsingle] at hsound hinner
          rw [Bool.and_eq_true] at hsound
          obtain ⟨shapes, hshapes, rfl⟩ := hinner
          obtain ⟨s, hs, hread⟩ := decode_union_inv hread
          obtain ⟨t, ht, hkept, hr⟩ :=
            member_read hF members hshapes hsound.2 hs hw hread (.inl rfl)
          obtain ⟨r, hr⟩ := fitFirst_takes (fun t ht hkept =>
            fit_answered hF t (TypeExpr.areSound_mem hsound.2 ht hkept) hutame) none []
            (.inr ⟨t, ht, hkept, hr⟩)
          exact ⟨r, TypeExpr.bounded_ok hsound.1 hr⟩
  | foreign name =>
      rw [TypeExpr.fit]
      exact ⟨_, rfl⟩
  | mapping key value =>
      rw [TypeExpr.fit]
      exact ⟨_, rfl⟩
  | shaped shape =>
      rw [TypeExpr.fit]
      exact ⟨_, rfl⟩

/-- One of the members of a union takes what a wire value is decoded to under one of their
shapes. -/
theorem member_read (hF : F.Sound) (ts : List TypeExpr) {choice : Bool} {marks : List Mark}
    {shapes : List Shape} {s : Shape} {w u : Value}
    (hshapes : TypeExpr.shapesUnder marks ts = .ok shapes)
    (hsound : TypeExpr.areSound choice marks ts = true) (hmem : s ∈ shapes) (hw : w.IsWire)
    (hread : (decode F exact w s).outcome = .ok u)
    (htaken : choice = true ∨ ∀ t ∈ ts, t.isNull = false → ∃ r, t.fit F marks w = .ok r) :
    ∃ t ∈ ts, t.isNull = false ∧ ∃ r, t.fit F marks u = .ok r := by
  cases ts with
  | nil =>
      cases hshapes
      cases hmem
  | cons t rest =>
      rw [TypeExpr.shapesUnder] at hshapes
      rw [TypeExpr.areSound, Bool.and_eq_true, Bool.or_eq_true] at hsound
      have hothers := htaken.imp_right fun h u hu => h u (List.mem_cons_of_mem t hu)
      split at hshapes
      · obtain ⟨v, hv, hr⟩ := member_read hF rest hshapes hsound.2 hmem hw hread hothers
        exact ⟨v, List.mem_cons_of_mem t hv, hr⟩
      · next hnull =>
        have hkept := Bool.eq_false_iff.2 hnull
        obtain ⟨first, hfirst, hshapes⟩ := bind_eq_ok.1 hshapes
        obtain ⟨others, hrest, hshapes⟩ := bind_eq_ok.1 hshapes
        cases hshapes
        rcases List.mem_cons.1 hmem with rfl | hmem
        · exact ⟨t, List.mem_cons_self, hkept,
            fit_read hF t hfirst (hsound.1.resolve_left hnull) hw hread
              (htaken.imp_right fun h => h t List.mem_cons_self hkept)⟩
        · obtain ⟨v, hv, hr⟩ := member_read hF rest hrest hsound.2 hmem hw hread hothers
          exact ⟨v, List.mem_cons_of_mem t hv, hr⟩

end

end EditorProtocol
