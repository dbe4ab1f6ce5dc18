import EditorProtocol.Proofs.Codec.Delivery

/-!
Typed values are delivered. Every value that conforms to a regular shape is written, and what is
written is read back as the same value, settled.
-/

namespace EditorProtocol

variable {F : Family} {s : Shape} {v w : Value}

/-! ### Parts -/

theorem Delivers.present (hF : F.Regular) (hs : s.isRegular F = true) (h : Delivers F s v w)
    (hnull : v.isNull = false) : Delivers F (.nullable s) v w := by
  refine ⟨?_, h.json, ?_⟩
  · rw [encode, hnull]
    exact h.encoded
  · rw [decode, h.isNull hF hs, hnull]
    exact h.decoded

theorem exists_delivered {xs : List Value} (h : ∀ x ∈ xs, ∃ w, Delivers F s x w) :
    ∃ ws, List.Forall₂ (Delivers F s) xs ws := by
  induction xs with
  | nil => exact ⟨[], .nil⟩
  | cons x rest ih =>
      obtain ⟨w, hw⟩ := h x List.mem_cons_self
      obtain ⟨ws, hws⟩ := ih fun y hy => h y (List.mem_cons_of_mem x hy)
      exact ⟨w :: ws, .cons hw hws⟩

theorem Delivers.list {xs ws : List Value} (h : List.Forall₂ (Delivers F s) xs ws) :
    Delivers F (.sequence s) (.list xs) (.list ws) := by
  refine ⟨?_, .list fun w hw => ?_, ?_⟩
  · rw [encode, encodeItems_ok_iff.2 (h.imp fun _ _ hx => hx.encoded)]
    rfl
  · obtain ⟨x, _, hx⟩ := exists_of_forall₂ h hw
    exact hx.json
  · have hitems : List.Forall₂ (fun w v => (decode F false w s).outcome = .ok v) ws
        (xs.map (Value.settled F)) := by
      rw [List.forall₂_map_right_iff]
      exact (h.imp fun _ _ hx => hx.decoded).flip
    rw [decode, Traced.outcome_bind, decodeItems_ok_iff.2 hitems, Value.settled_list]
    rfl

/-- A value of one alternative is delivered under a union whose alternatives are told apart. -/
theorem Delivers.union (hF : F.Regular) {alternatives : List Shape}
    (hregular : (Shape.union alternatives).isRegular F = true) (listed : s ∈ alternatives)
    (hv : Conforms F s v) (h : Delivers F s v w) (hkeys : s.Covers F w) :
    Delivers F (.union alternatives) v w := by
  rw [Shape.isRegular, Bool.and_eq_true] at hregular
  have hs := Shape.areRegular_mem hregular.1 listed
  have hdecided : ∀ t ∈ alternatives, Decided (decode F false w t).outcome := fun t ht =>
    (decode_sound hF (Shape.areRegular_mem hregular.1 ht) h.json).1
  obtain ⟨before, after, rfl⟩ := List.append_of_mem listed
  have hapart := Shape.areApart_inv hregular.2
  refine ⟨?_, h.json, ?_⟩
  · exact encode_union (fun t ht => encode_refused_of_apart hF (hapart t ht) hs hv) h.encoded
  -- Later alternatives may match as well: the first match wins.
  · refine decode_union_first (fun t ht => ?_) h.decoded fun t ht =>
      hdecided t (List.mem_append_right _ (.tail s ht))
    exact decode_refused_of_apart hF (hapart t ht) h.json h.decoded hkeys

/-! ### Round trips -/

theorem Delivers.primitive {p : Primitive} (h : Conforms F (.primitive p) v) (hjson : v.IsJson) :
    Delivers F (.primitive p) v v := by
  have haccept := Primitive.accept_of_conforms h
  refine ⟨?_, hjson, ?_⟩
  · rw [encode, hjson.unwrapped]
    exact haccept
  · rw [decode, Traced.outcome_of, hjson.settled]
    exact haccept

theorem Delivers.enumeration {e : EnumShape} (he : e.isFaithful = true)
    (h : Conforms F (.enumeration e) v) : ∃ w, Delivers F (.enumeration e) v w := by
  obtain ⟨w, haccept, hjson, hdecode⟩ := EnumShape.accept_of_conforms he h
  refine ⟨w, ?_, hjson, ?_⟩
  · rw [encode]
    exact haccept
  · rw [decode, Traced.outcome_of, hdecode]
    cases h with
    | member => rfl
    | code _ _ json => rw [json.settled]

theorem Delivers.any (hv : v.IsJson) : Delivers F .any v v := by
  refine ⟨?_, hv, ?_⟩
  · rw [encode]
    · rw [hv.checkJson]
      rfl
    · rintro own slots rfl
      cases hv
  · rw [decode, Traced.outcome_of, hv.checkJson, hv.settled]
    rfl

/-- Only record shapes say which keys there are. -/
theorem Delivers.covered (h : Delivers F s v w) (hs : ∀ ref, s ≠ .record ref) :
    ∃ w, Delivers F s v w ∧ s.Covers F w := ⟨w, h, fun ref _ heq => absurd heq (hs ref)⟩

/-- A conforming value is written, without keys that its model does not declare, and read back. -/
theorem Conforms.delivers (hF : F.Regular) (hs : s.isRegular F = true) (h : Conforms F s v) :
    ∃ w, Delivers F s v w ∧ s.Covers F w := by
  -- By induction on why the value conforms; the keys are what a union needs to tell its
  -- alternatives apart again when the value is read back.
  induction h with
  | null kind => exact (Delivers.primitive (.null kind) .null).covered nofun
  | text kind t => exact (Delivers.primitive (.text kind t) (.text t)).covered nofun
  | boolean kind b => exact (Delivers.primitive (.boolean kind b) (.bool b)).covered nofun
  | integer kind n low high =>
      exact (Delivers.primitive (.integer kind n low high) (.int n)).covered nofun
  | float kind x => exact (Delivers.primitive (.float kind x) (.float x)).covered nofun
  | member declared =>
      obtain ⟨w, hw⟩ := Delivers.enumeration hs (.member declared)
      exact hw.covered nofun
  | code members listed json =>
      obtain ⟨w, hw⟩ := Delivers.enumeration hs (.code members listed json)
      exact hw.covered nofun
  | any json => exact (Delivers.any json).covered nofun
  | absent inner => exact (Delivers.null inner).covered nofun
  | @present inner v value ih =>
      rw [Shape.isRegular] at hs
      cases hnull : v.isNull with
      | true =>
          rw [Value.isNull_iff.1 hnull]
          exact (Delivers.null inner).covered nofun
      | false =>
          obtain ⟨w, hw, _⟩ := ih hs
          exact (hw.present hF hs hnull).covered nofun
  | list items ih =>
      rw [Shape.isRegular] at hs
      obtain ⟨ws, hws⟩ := exists_delivered fun x hx => by
        obtain ⟨w, hw, _⟩ := ih x hx hs
        exact ⟨w, hw⟩
      exact (Delivers.list hws).covered nofun
  | union listed value ih =>
      have hregular := hs
      rw [Shape.isRegular, Bool.and_eq_true] at hregular
      obtain ⟨w, hw, hkeys⟩ := ih (Shape.areRegular_mem hregular.1 listed)
      exact (hw.union hF hs listed value hkeys).covered nofun
  | @record ref m slots model names keeps values order ih =>
      have hregular := (hF.model model).1
      have hdelivery : ∀ d ∈ m.fields, d.Delivery F slots := by
        intro d hd
        obtain ⟨s, hslot⟩ := Value.exists_slot? (names d hd)
        obtain ⟨hs, hname⟩ := Value.mem_of_slot? hslot
        refine (hregular.fields d hd).delivery hslot (keeps d hd s hs hname) fun hnull => ?_
        obtain ⟨u, hu, _⟩ := ih d hd s hs hname hnull (hregular.fields d hd).shape
        exact ⟨values d hd s hs hname hnull, u, hu⟩
      refine ⟨_, Model.delivers_record hF model hdelivery order, ?_⟩
      rintro _ n heq hn key item hat
      cases heq
      cases model.symm.trans hn
      obtain ⟨d, hd, rfl, _⟩ := Value.mem_of_lookup_filterMap hat
      exact List.mem_map_of_mem hd

/-- A conforming value has the same fields as when it is settled. -/
theorem Conforms.sameFields_settled (hF : F.Regular) (hs : s.isRegular F = true)
    (h : Conforms F s v) : (v.settled F).SameFields F v := by
  obtain ⟨w, hw, _⟩ := h.delivers hF hs
  exact ((decode_sound hF hs hw.json).2 _ hw.decoded).2.1

end EditorProtocol
