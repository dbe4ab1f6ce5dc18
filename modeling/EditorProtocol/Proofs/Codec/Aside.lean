import EditorProtocol.Proofs.Codec.RoundTrip

/-!
Records beside values of another shape. If the two can be told apart, what is written for the one is
refused where the other is expected, though records may have undeclared keys.
-/

namespace EditorProtocol

variable {F : Family} {exact : Bool} {ref : ModelRef} {s : Shape} {v w : Value}

theorem Shape.areAside_mem {alternatives : List Shape}
    (h : Shape.areAside F ref alternatives = true) (hs : s ∈ alternatives) :
    s.isAside F ref = true := by
  induction alternatives with
  | nil => cases hs
  | cons t rest ih =>
      rw [areAside, Bool.and_eq_true] at h
      rcases List.mem_cons.1 hs with rfl | hs
      · exact h.1
      · exact ih h.2 hs

/-- A shape of one kind of values is apart from the model, both ways. -/
theorem Shape.isAside_inv (h : s.isAside F ref = true) (hnullable : ∀ inner, s ≠ .nullable inner)
    (hunion : ∀ alternatives, s ≠ .union alternatives) :
    s.isApart F (.record ref) = true ∧ Shape.isApart F (.record ref) s = true := by
  rw [isAside] at h
  · exact Bool.and_eq_true_iff.1 h
  · exact hnullable
  · exact hunion

theorem decode_union_refused {alternatives : List Shape}
    (h : ∀ t ∈ alternatives, Refused (decode F exact w t).outcome) :
    Refused (decode F exact w (.union alternatives)).outcome := by
  obtain ⟨hdecided, hinv, _⟩ := decode_union fun t ht => (h t ht).decided
  refine hdecided.resolve_left ?_
  rintro ⟨v, hv⟩
  obtain ⟨t, more, hmatches⟩ := hinv v hv
  obtain ⟨ht, hdecode⟩ := mem_of_matchesOf hmatches
  exact (h t ht).ne_ok v hdecode

/-- What was written for a record is refused under a shape aside from its model. -/
theorem decode_refused_of_aside (hF : F.Regular) {s : Shape} (h : s.isAside F ref = true)
    (hw : w.IsJson) (hrecord : (decode F exact w (.record ref)).outcome = .ok v)
    (hkeys : (Shape.record ref).Covers F w) : Refused (decode F exact w s).outcome := by
  cases s with
  | nullable inner =>
      rw [Shape.isAside] at h
      have hobject := isObject_of_decode hrecord
      rw [decode, if_neg]
      · exact decode_refused_of_aside hF h hw hrecord hkeys
      · rw [Value.isNull_iff]
        rintro rfl
        cases hobject
  | union alternatives =>
      rw [Shape.isAside] at h
      refine decode_union_refused fun t ht => ?_
      exact decode_refused_of_aside hF (Shape.areAside_mem h ht) hw hrecord hkeys
  | _ =>
      have hapart := Shape.isAside_inv h (by rintro _ ⟨⟩) (by rintro _ ⟨⟩)
      exact decode_refused_of_apart hF hapart.1 hw hrecord hkeys
termination_by sizeOf s
decreasing_by
  all_goals subst_vars
  · exact Shape.sizeOf_lt_of_mem ht
  · simp +arith

/-- What was written for a value of a shape is refused as a record aside from it. -/
theorem Conforms.refused_aside (hF : F.Regular) {s : Shape} (hs : s.isRegular F = true)
    (h : s.isAside F ref = true) {v : Value} (hv : Conforms F s v)
    (hw : encode F v s = .ok w) : Refused (decode F false w (.record ref)).outcome := by
  cases s with
  | nullable inner =>
      rw [Shape.isAside] at h
      rw [Shape.isRegular] at hs
      rw [encode] at hw
      split at hw
      · cases hw
        exact decode_record_strange rfl
      · next hnull =>
        cases hv with
        | absent => exact absurd rfl hnull
        | present value => exact value.refused_aside hF hs h hw
  | union alternatives =>
      have hregular := hs
      rw [Shape.isAside] at h
      rw [Shape.isRegular, Bool.and_eq_true] at hregular
      cases hv with
      | union listed value =>
          have hlisted := Shape.areRegular_mem hregular.1 listed
          -- The union writes what the alternative that the value conforms to does.
          obtain ⟨u, hu, hkeys⟩ := value.delivers hF hlisted
          cases (hu.union hF hs listed value hkeys).encoded.symm.trans hw
          exact value.refused_aside hF hlisted (Shape.areAside_mem h listed) hu.encoded
  | _ =>
      have hapart := Shape.isAside_inv h (by rintro _ ⟨⟩) (by rintro _ ⟨⟩)
      obtain ⟨u, hu, hkeys⟩ := hv.delivers hF hs
      cases hu.encoded.symm.trans hw
      exact decode_refused_of_apart hF hapart.2 hu.json hu.decoded hkeys
termination_by sizeOf s
decreasing_by
  all_goals subst_vars
  · exact Shape.sizeOf_lt_of_mem listed
  · simp +arith

end EditorProtocol
