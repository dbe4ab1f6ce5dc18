import Mathlib.Data.List.Permutation
import EditorProtocol.Proofs.Codec.Overlap
import EditorProtocol.Proofs.Codec.Writing

/-!
Records under a union that has their own model among its alternatives. Encoding never asks of which
model a record is: an earlier alternative takes it if the record's own model declares every field
that the alternative needs, and writes those fields only. An earlier alternative that needs a field
which the own model does not declare leaves the record to its own.
-/

namespace EditorProtocol

variable {F : Family} {own ref : ModelRef} {slots : List (Slot Value)} {s : Shape} {w : Value}

/-! ### Standing in for a record of another model -/

/-- What a record gives for a field of a model that may be another one than its own. -/
structure Field.Lent (F : Family) (own : ModelRef) (slots : List (Slot Value)) (f : Field)
    (item : Option Value) : Prop where
  wrote : f.Wrote F slots item
  declared : f.optional = false ∨ item.isSome = true →
    (F.find? own).any (·.declares f.name) = true

/-- The entries with the items that were written for fields. -/
def Field.entries (fields : List Field) (items : List (Option Value)) : List (String × Value) :=
  (fields.zipWith (fun f item => (item.map (f.wire, ·)).toList) items).flatten

/-- A value of a shape that is written for a record of a model. -/
inductive StandsIn (F : Family) (own : ModelRef) (slots : List (Slot Value)) :
    Shape → Value → Prop
  | any {w : Value} (dumped : dump F .any (.record own slots) = .ok w) :
      StandsIn F own slots .any w
  | nullable {inner : Shape} {w : Value} (inside : StandsIn F own slots inner w) :
      StandsIn F own slots (.nullable inner) w
  | union {alternatives : List Shape} {s : Shape} {w : Value} (mem : s ∈ alternatives)
      (inside : StandsIn F own slots s w) : StandsIn F own slots (.union alternatives) w
  | unknown {ref : ModelRef} (unknown : F.find? ref = none) :
      StandsIn F own slots (.record ref) (.object [])
  | record {ref : ModelRef} {fields : List Field} {items : List (Option Value)}
      (fields_eq : F.fields ref = .ok fields)
      (lent : List.Forall₂ (Field.Lent F own slots) fields items) :
      StandsIn F own slots (.record ref) (.object (Field.entries fields items))

theorem lent_of_encodeFields {whole : Value} {fields : List Field}
    {entries : List (String × Value)}
    (h : encodeFields F ref own slots whole fields = .ok entries) :
    ∃ items, List.Forall₂ (Field.Lent F own slots) fields items ∧
      entries = Field.entries fields items := by
  induction fields generalizing entries with
  | nil =>
      rw [encodeFields] at h
      cases h
      exact ⟨[], .nil, rfl⟩
  | cons f rest ih =>
      obtain ⟨item, others, hwrote, hrest, rfl, hdeclared⟩ := encodeFields_cons_inv h
      obtain ⟨items, hitems, rfl⟩ := ih hrest
      exact ⟨item :: items, .cons ⟨hwrote, hdeclared⟩ hitems, rfl⟩

/-- Whatever takes a record has something stand in for it. -/
theorem standsIn_of_encode (s : Shape) (h : encode F (.record own slots) s = .ok w) :
    StandsIn F own slots s w := by
  cases s with
  | primitive p =>
      obtain ⟨m, hm⟩ : Refused (encode F (.record own slots) (.primitive p)) := by
        rw [encode]
        cases p with
        | mk kind minimum maximum => cases kind <;> exact refused_refuse _ _ _
      cases hm.symm.trans h
  | enumeration e =>
      rw [encode] at h
      obtain ⟨heq, hadmits⟩ := EnumShape.accept_ok_iff.1 h
      cases e with
      | mk name codes written members => cases codes <;> cases hadmits
  | any =>
      rw [encode] at h
      exact .any h
  | nullable inner =>
      rw [encode] at h
      exact .nullable (standsIn_of_encode inner h)
  | sequence element =>
      rw [encode] at h
      · cases h
      · rintro xs ⟨⟩
      · rintro xs ⟨⟩
  | union alternatives =>
      obtain ⟨t, ht, h⟩ := encode_union_inv h
      exact .union ht (standsIn_of_encode t h)
  | record ref =>
      cases hfind : F.find? ref with
      | none =>
          cases encode_record_unknown hfind h
          exact .unknown hfind
      | some m =>
          cases hfields : m.fields.mapM (·.field) with
          | error e =>
              rw [encode, hfind] at h
              simp only [hfields] at h
              cases h
          | ok fields =>
              rw [encode_record_fields hfind hfields] at h
              obtain ⟨entries, hentries, h⟩ := bind_eq_ok.1 h
              obtain ⟨items, hitems, rfl⟩ := lent_of_encodeFields hentries
              unfold Model.seal at h
              split at h
              · cases h
                exact .record (Family.fields_of_find hfind hfields) hitems
              · cases h
              · cases h
termination_by sizeOf s
decreasing_by
  all_goals subst_vars
  · exact Shape.sizeOf_lt_of_mem ht
  · simp +arith

/-! ### Shapes that no record of a model can stand in -/

/-- A shape that takes no record of a model: every record in it needs a field that the model does
not declare. -/
inductive Shape.Bars (F : Family) (own : ModelRef) : Shape → Prop
  | primitive (p : Primitive) : Bars F own (.primitive p)
  | enumeration (e : EnumShape) : Bars F own (.enumeration e)
  | sequence (element : Shape) : Bars F own (.sequence element)
  | nullable {inner : Shape} (inside : Bars F own inner) : Bars F own (.nullable inner)
  | union {alternatives : List Shape} (inside : ∀ s ∈ alternatives, Bars F own s) :
      Bars F own (.union alternatives)
  | record {ref : ModelRef} {fields : List Field} {f : Field} (known : (F.find? ref).isSome = true)
      (fields_eq : F.fields ref = .ok fields) (mem : f ∈ fields) (needed : f.optional = false)
      (undeclared : (F.find? own).any (·.declares f.name) = false) : Bars F own (.record ref)

theorem Shape.Bars.not_standsIn (h : s.Bars F own) : ¬StandsIn F own slots s w := by
  intro hstands
  induction hstands with
  | any => cases h
  | nullable _ ih =>
      cases h with
      | nullable inside => exact ih inside
  | union mem _ ih =>
      cases h with
      | union inside => exact ih (inside _ mem)
  | unknown unknown =>
      cases h with
      | record known =>
          rw [unknown] at known
          cases known
  | record fields_eq lent =>
      cases h with
      | @record _ fields f _ fields_eq' mem needed undeclared =>
          cases fields_eq.symm.trans fields_eq'
          obtain ⟨item, _, hlent⟩ := exists_of_forall₂ lent.flip mem
          cases undeclared.symm.trans (hlent.declared (.inl needed))

/-! ### The own model among the alternatives -/

/-- A record is written as one of its own model, unless an earlier alternative takes it, in which it
stands in for another value, or fails with a fault; so if no earlier alternative takes records of
its model, only a fault keeps it from being written as its own. -/
theorem written_as_own (F : Family) {alternatives : List Shape} {ref : ModelRef}
    {slots : List (Slot Value)} {w : Value} (listed : .record ref ∈ alternatives)
    (h : encode F (.record ref slots) (.record ref) = .ok w) :
    (encode F (.record ref slots) (.union alternatives) = .ok w ∨
      ∃ before s after, alternatives = before ++ s :: after ∧ s ≠ .record ref ∧
        .record ref ∈ after ∧ (∀ t ∈ before, Refused (encode F (.record ref slots) t)) ∧
        encode F (.record ref slots) (.union alternatives) = encode F (.record ref slots) s ∧
        ((∃ u, encode F (.record ref slots) s = .ok u ∧ StandsIn F ref slots s u) ∨
          ∃ f, (∀ m, f ≠ .mismatch m) ∧ encode F (.record ref slots) s = .error f)) ∧
    ∀ before after, alternatives = before ++ .record ref :: after →
      (∀ s ∈ before, s.Bars F ref) →
        encode F (.record ref slots) (.union alternatives) = .ok w ∨
          ∃ f, (∀ m, f ≠ .mismatch m) ∧
            encode F (.record ref slots) (.union alternatives) = .error f := by
  have hown : ¬Refused (encode F (.record ref slots) (.record ref)) := fun hrefused =>
    hrefused.ne_ok w h
  rcases encode_union_cases F (.record ref slots) alternatives with
    ⟨hrefused, _⟩ | ⟨before, s, after, rfl, hbefore, hs, hunion⟩
  · exact absurd (hrefused _ listed) hown
  -- The first alternative that does not refuse takes the record, or fails.
  have htaken : (∃ u, encode F (.record ref slots) s = .ok u ∧ StandsIn F ref slots s u) ∨
      ∃ f, (∀ m, f ≠ .mismatch m) ∧ encode F (.record ref slots) s = .error f := by
    cases hencode : encode F (.record ref slots) s with
    | ok u => exact .inl ⟨u, rfl, standsIn_of_encode s hencode⟩
    | error f => exact .inr ⟨f, fun m hm => hs ⟨m, hm ▸ hencode⟩, rfl⟩
  refine ⟨?first, ?barred⟩
  case first =>
    by_cases hsame : s = .record ref
    · exact .inl (hunion.trans (hsame ▸ h))
    · refine .inr ⟨before, s, after, rfl, hsame, ?_, hbefore, hunion, htaken⟩
      rcases List.mem_append.1 listed with hmem | hmem
      · exact absurd (hbefore _ hmem) hown
      · exact (List.mem_cons.1 hmem).resolve_left (Ne.symm hsame)
  case barred =>
    intro before' after' hsplit hbars
    rcases htaken with ⟨u, hu, hstands⟩ | ⟨f, hf, hfault⟩
    · have hplace : s ∈ before' ∨ s = .record ref := by
        rcases List.append_eq_append_iff.1 hsplit with
          ⟨_ | ⟨t, rest⟩, hleft, hright⟩ | ⟨_ | ⟨t, rest⟩, hleft, hright⟩
        · exact .inr (List.cons.inj hright).1
        · refine .inl (hleft ▸ List.mem_append_right _ ?_)
          exact (List.cons.inj hright).1 ▸ .head _
        · exact .inr (List.cons.inj hright).1.symm
        · refine absurd (hbefore (.record ref) ?_) hown
          rw [hleft, (List.cons.inj hright).1]
          exact List.mem_append_right _ (.head _)
      rcases hplace with hmem | rfl
      · exact absurd hstands (hbars s hmem).not_standsIn
      · exact .inl (hunion.trans h)
    · exact .inr ⟨f, hf, hunion.trans hfault⟩

section Renamed

/-- A model with a number, under a short key. -/
def ticket : Model := .named "A" [⟨"id", "a", .integer, none⟩]

/-- A model with the same attribute under another key, and a note. -/
def notice : Model :=
  .named "B" [⟨"id", "b", .integer, none⟩, ⟨"note", "note", .optional .text, some .null⟩]

def notices : Family := ⟨[ticket, notice]⟩

def notified : List (Slot Value) := [⟨"id", .int 1, .given⟩, ⟨"note", .text "n", .given⟩]

/-- A list of tickets takes no notice, so one is written as its own. -/
theorem written_as_own_notice :
    .record notice.ref ∈ [Shape.sequence (.record ticket.ref), .record notice.ref] ∧
      encode notices (.record notice.ref notified) (.record notice.ref) =
        .ok (.object [("b", .int 1), ("note", .text "n")]) ∧
      (encode notices (.record notice.ref notified)
          (.union [.sequence (.record ticket.ref), .record notice.ref]) =
            .ok (.object [("b", .int 1), ("note", .text "n")]) ∨
        ∃ f, (∀ m, f ≠ .mismatch m) ∧ encode notices (.record notice.ref notified)
          (.union [.sequence (.record ticket.ref), .record notice.ref]) = .error f) := by
  have listed : .record notice.ref ∈ [Shape.sequence (.record ticket.ref), .record notice.ref] :=
    .tail _ (.head _)
  have h : encode notices (.record notice.ref notified) (.record notice.ref) =
      .ok (.object [("b", .int 1), ("note", .text "n")]) := by cbv
  refine ⟨listed, h, ?_⟩
  refine (written_as_own notices listed h).2 [.sequence (.record ticket.ref)] [] rfl ?_
  exact List.forall_mem_singleton.2 (.sequence _)

/-- A notice is written as a ticket where one may stand, though the analysis tells them apart; the
note is dropped, and a ticket is read. -/
theorem written_as_other :
    (TypeExpr.union [.model ticket.ref, .model notice.ref] false).shape =
      .ok (.union [.record ticket.ref, .record notice.ref]) ∧
    notices.mayOverlap (.record ticket.ref) (.record notice.ref) = .ok false ∧
    encode notices (.record notice.ref notified) (.record notice.ref) =
      .ok (.object [("b", .int 1), ("note", .text "n")]) ∧
    encode notices (.record notice.ref notified)
      (.union [.record ticket.ref, .record notice.ref]) = .ok (.object [("a", .int 1)]) ∧
    (decode notices false (.object [("a", .int 1)])
      (.union [.record ticket.ref, .record notice.ref])).outcome =
        .ok (.record ticket.ref [⟨"id", .int 1, .given⟩]) := by
  refine ⟨rfl, ?_, ?_, ?_, ?_⟩
  · cbv
  · cbv
  · cbv
  · cbv

end Renamed

end EditorProtocol
