import EditorProtocol.Proofs.Codec.Outcome
import EditorProtocol.Proofs.Shape.Regular

/-!
What the shape of a type tells about the type: codes of an enumeration are all numbers or all texts,
and a union has one shape for each member that is not null.
-/

namespace EditorProtocol

/-! ### Codes -/

theorem Scalar.texts?_inv {codes : List Scalar} {ss : List String} (h : texts? codes = some ss) :
    codes = ss.map .text := by
  induction codes generalizing ss with
  | nil =>
      cases h
      rfl
  | cons c rest ih =>
      unfold texts? at h ih
      rw [List.mapM_cons] at h
      cases c with
      | text s =>
          obtain ⟨t, ht, h⟩ := Option.bind_eq_some_iff.1 h
          obtain ⟨ts, hts, h⟩ := Option.bind_eq_some_iff.1 h
          cases ht
          cases h
          rw [ih hts, List.map_cons]
      | _ => cases h

theorem Scalar.integers?_inv {codes : List Scalar} {ns : List Int} (h : integers? codes = some ns) :
    codes = ns.map .int := by
  induction codes generalizing ns with
  | nil =>
      cases h
      rfl
  | cons c rest ih =>
      unfold integers? at h ih
      rw [List.mapM_cons] at h
      cases c with
      | int n =>
          obtain ⟨k, hk, h⟩ := Option.bind_eq_some_iff.1 h
          obtain ⟨ks, hks, h⟩ := Option.bind_eq_some_iff.1 h
          cases hk
          cases h
          rw [ih hks, List.map_cons]
      | _ => cases h

/-- An enumeration shape has the given members and the given codes, of which there are some. -/
theorem EnumShape.ofCodes_inv {name : String} {codes : List Scalar} {members : List EnumMember}
    {e : EnumShape} (h : ofCodes name codes members = .ok e) :
    e.members = members ∧ codes ≠ [] ∧ e.codes.scalars = codes := by
  unfold ofCodes at h
  split at h
  · cases h
  · next hcodes =>
    have hne : codes ≠ [] := fun hnil => hcodes (by rw [hnil]; rfl)
    dsimp only at h
    split at h
    · next ss hss =>
      cases h
      exact ⟨rfl, hne, (Scalar.texts?_inv hss).symm⟩
    · next ns _ hns =>
      cases h
      exact ⟨rfl, hne, (Scalar.integers?_inv hns).symm⟩
    · cases h

/-! ### Unions -/

namespace TypeExpr

theorem shapesUnder_length {marks : List Mark} {ts : List TypeExpr} {shapes : List Shape}
    (h : shapesUnder marks ts = .ok shapes) :
    shapes.length = (ts.filter (!·.isNull)).length := by
  induction ts generalizing shapes with
  | nil =>
      cases h
      rfl
  | cons t rest ih =>
      rw [shapesUnder] at h
      split at h
      · next hnull => rw [ih h, List.filter_cons_of_neg (by simp [hnull])]
      · next hnull =>
        obtain ⟨s, hs, h⟩ := bind_eq_ok.1 h
        obtain ⟨others, hothers, h⟩ := bind_eq_ok.1 h
        cases h
        rw [List.filter_cons_of_pos (by simp [hnull]), List.length_cons, List.length_cons,
          ih hothers]

/-- The shape of a union is that of its only member besides null, which bounds apply to, or the
union of the shapes of several; with null among the members, it may be null. -/
theorem shapeUnder_union_inv {marks : List Mark} {members : List TypeExpr} {barred : Bool}
    {s : Shape} (h : (TypeExpr.union members barred).shapeUnder marks = .ok s) :
    ∃ inner, s = (if members.any (·.isNull) then .nullable inner else inner) ∧
      if (members.filter (!·.isNull)).length == 1 then shapesUnder marks members = .ok [inner]
      else ∃ shapes, shapesUnder [] members = .ok shapes ∧ inner = .union shapes := by
  cases members with
  | nil => cases h
  | cons t rest =>
      rw [shapeUnder] at h
      · obtain ⟨shapes, hshapes, h⟩ := bind_eq_ok.1 h
        have hlength := shapesUnder_length hshapes
        dsimp only at h
        split at h
        · next inner =>
          cases h
          have hsingle : ((List.filter (!·.isNull) (t :: rest)).length == 1) = true :=
            beq_iff_eq.2 hlength.symm
          refine ⟨inner, rfl, ?_⟩
          rw [if_pos hsingle] at hshapes ⊢
          exact hshapes
        · obtain ⟨inner, hinner, h⟩ := bind_eq_ok.1 h
          cases h
          unfold Shape.ofAlternatives at hinner
          split at hinner
          · cases hinner
          · next hfew =>
            cases hinner
            refine ⟨.union shapes, rfl, ?_⟩
            have hmany : ¬ ((List.filter (!·.isNull) (t :: rest)).length == 1) = true := by
              rw [beq_iff_eq, ← hlength]
              omega
            rw [if_neg hmany] at hshapes ⊢
            exact ⟨shapes, hshapes, rfl⟩
      · exact fun hnil => by cases hnil

theorem shapesUnder_mem {marks : List Mark} {ts : List TypeExpr} {shapes : List Shape}
    (h : shapesUnder marks ts = .ok shapes) {t : TypeExpr} (ht : t ∈ ts)
    (hnull : t.isNull = false) : ∃ s ∈ shapes, t.shapeUnder marks = .ok s := by
  induction ts generalizing shapes with
  | nil => cases ht
  | cons u rest ih =>
      rw [shapesUnder] at h
      split at h
      · next hu =>
        rcases List.mem_cons.1 ht with rfl | ht
        · rw [hnull] at hu
          cases hu
        · exact ih h ht
      · obtain ⟨s, hs, h⟩ := bind_eq_ok.1 h
        obtain ⟨others, hothers, h⟩ := bind_eq_ok.1 h
        cases h
        rcases List.mem_cons.1 ht with rfl | ht
        · exact ⟨s, List.mem_cons_self, hs⟩
        · obtain ⟨r, hr, heq⟩ := ih hothers ht
          exact ⟨r, List.mem_cons_of_mem s hr, heq⟩

/-- A union that has a shape has a member besides null. -/
theorem exists_member {marks : List Mark} {members : List TypeExpr} {barred : Bool}
    {s : Shape} (h : (TypeExpr.union members barred).shapeUnder marks = .ok s) :
    ∃ t ∈ members, t.isNull = false := by
  refine Classical.byContradiction fun hnone => ?_
  have hnil : members.filter (!·.isNull) = [] := by
    rw [List.filter_eq_nil_iff]
    exact fun t ht hkept => hnone ⟨t, ht, by simpa using hkept⟩
  cases members with
  | nil => cases h
  | cons t rest =>
      rw [shapeUnder] at h
      · obtain ⟨shapes, hshapes, h⟩ := bind_eq_ok.1 h
        have hlength := shapesUnder_length hshapes
        rw [hnil] at hlength
        cases List.length_eq_zero_iff.1 hlength
        cases h
      · exact fun hnil => by cases hnil

end TypeExpr

end EditorProtocol
