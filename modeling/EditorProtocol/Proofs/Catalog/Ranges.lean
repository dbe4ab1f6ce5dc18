import EditorProtocol.Proofs.Catalog.RoundTrip
import EditorProtocol.Proofs.Codec.Assurance

/-!
Ranges that cross the codec. Validation lets no position with a negative coordinate pass and no
range that ends before it starts, and it is asked about every record, decoded or written; so none is
found in a decoded value, however deep, nor on the wire at the place of a range, whatever value was
written there.
-/

namespace EditorProtocol

/-! ### Spans -/

/-- A span that a document may have: its end does not come before its start, and no coordinate is
negative. -/
structure Span.IsSound (s : Span) : Prop where
  start : 0 ≤ s.start.line ∧ 0 ≤ s.start.character
  stop : 0 ≤ s.stop.line ∧ 0 ≤ s.stop.character
  order : s.start.line < s.stop.line ∨
    s.start.line = s.stop.line ∧ s.start.character ≤ s.stop.character

/-- The start and the end of a record are at the positions of a span. -/
def Slot.Spans (slots : List (Slot Value)) (s : Span) : Prop :=
  (∃ start, Value.attribute? slots "start" = some start ∧ start.IsAt s.start) ∧
    ∃ stop, Value.attribute? slots "end" = some stop ∧ stop.IsAt s.stop

/-- The start and the end of an object denote the positions of a span. -/
def Value.DenotesSpan (w : Value) (s : Span) : Prop :=
  (∃ start, w.at? "start" = some start ∧ start.Denotes s.start) ∧
    ∃ stop, w.at? "end" = some stop ∧ stop.Denotes s.stop

/-! ### Coordinates -/

section Coordinates

variable {F : Family} {v w : Value}

theorem nonnegative_of_unbroken {n : Int}
    (h : Mark.breach? [.bounds (some 0) none none none] (fun b => some (Ord.compare n b)) = none) :
    0 ≤ n := by
  by_contra hneg
  rw [Int.not_le, ← Int.compare_eq_lt] at hneg
  simp [Mark.breach?, BoundKind.bound?, BoundKind.admits, hneg] at h

/-- A coordinate of a record that was put together is there and not negative. -/
theorem fitFields_nonnegative {ds : List FieldDecl} {slots : List (Slot Value)} {byName : Bool}
    (nodup : (ds.map (·.name)).Nodup) (h : fitFields F byName w ds = .ok ([], slots))
    {d : FieldDecl} (hd : d ∈ ds) (hwire : d.wire = d.name) (hnone : d.fallback.isNone = true)
    (htype : d.type = .nonNegative) :
    ∃ n, Value.attribute? slots d.name = some (.int n) ∧ 0 ≤ n := by
  have hfit : ∀ v, d.type.fit F [] v = v.fitInteger [.bounds (some 0) none none none] := by
    intro v
    rw [htype, TypeExpr.nonNegative, TypeExpr.fit, TypeExpr.fit]
    rfl
  obtain ⟨htaken, hslot⟩ := fitFields_slot nodup h hd fun v => by
    rw [hfit]
    exact Value.fitInteger_loud _ v
  obtain ⟨v, r, _, hr, hfitted⟩ := fitted_needed hwire hnone htaken
  rw [hfit] at hr
  obtain ⟨n, hvalue, hunbroken, _⟩ := Value.fitInteger_inv hr
  refine ⟨n, ?_, nonnegative_of_unbroken hunbroken⟩
  unfold Value.attribute?
  rw [hslot, hfitted, hvalue]
  rfl

/-- What must be there is written for its attribute. -/
theorem Field.Wrote.needed {slots : List (Slot Value)} {f : Field} {found : Option Value}
    (h : f.Wrote F slots found) (hoptional : f.optional = false) (hnullable : f.nullable = false) :
    ∃ u item, found = some item ∧ encode F u f.shape = .ok item := by
  cases h with
  | nothing optional => cases hoptional.symm.trans optional
  | null nullable => cases hnullable.symm.trans nullable
  | @value slot item _ _ encoded => exact ⟨slot.value, item, rfl, encoded⟩

/-- A reference that is no parent of any model is a kind of nothing but itself. -/
theorem Family.eq_of_isKind {ref other : ModelRef} (hother : ∀ m ∈ F.models, other ∉ m.parents)
    (h : F.isKind ref other = true) : ref = other := by
  have hclimb : ∀ steps ref, isKind.climb F other steps ref = true → ref = other := by
    intro steps
    induction steps with
    | zero => exact fun ref h => beq_iff_eq.1 h
    | succ steps ih =>
        intro ref h
        rw [isKind.climb, Bool.or_eq_true, beq_iff_eq] at h
        refine h.resolve_right fun hparent => ?_
        obtain ⟨m, hm, hany⟩ := (Option.any_eq_true _ _).1 hparent
        obtain ⟨parent, hmem, hclimb⟩ := List.any_eq_true.1 hany
        exact hother m (mem_of_find? hm).1 (ih parent hclimb ▸ hmem)
  exact hclimb _ _ h

end Coordinates

namespace Catalog

variable {v w : Value}

/-! ### Decoded ranges -/

/-- What validation makes sure of about positions and ranges. -/
structure Sited (own : ModelRef) (slots : List (Slot Value)) : Prop where
  position : own = position.ref →
    ∃ p : Position, (Value.record own slots).IsAt p ∧ 0 ≤ p.line ∧ 0 ≤ p.character
  range : own = range.ref → ∃ s, Slot.Spans slots s ∧ s.IsSound

theorem find?_position : family.find? position.ref = some position := rfl

theorem find?_range : family.find? range.ref = some range := rfl

theorem positional_position : family.isPositional (.model position.ref) = true := by
  decide +kernel

/-- Only positions are of the kind of positions. -/
theorem eq_position_of_isKind {own : ModelRef} (h : family.isKind own position.ref = true) :
    own = position.ref :=
  Family.eq_of_isKind (by decide +kernel) h

/-- No field is filled in with a record, or with anything that has parts. -/
theorem fallbacks_atoms : ∀ m ∈ family.models, ∀ d ∈ m.fields, ∀ v, d.fallback = some v →
    v.isAtom = true := by
  have hall : ∀ m ∈ family.models, ∀ d ∈ m.fields, d.fallback.all Value.isAtom = true := by
    decide +kernel
  intro m hm d hd v hv
  simpa [hv] using hall m hm d hd

/-- The coordinates of a position that was put together are not negative. -/
theorem position_sited {slots : List (Slot Value)}
    (h : fitFields family position.byName w position.fields = .ok ([], slots)) :
    ∃ p : Position, (Value.record position.ref slots).IsAt p ∧ 0 ≤ p.line ∧ 0 ≤ p.character := by
  have nodup : (position.fields.map (·.name)).Nodup := by decide
  obtain ⟨l, hl, hline⟩ := fitFields_nonnegative nodup h (.head _) rfl rfl rfl
  obtain ⟨c, hc, hcharacter⟩ := fitFields_nonnegative nodup h (.tail _ (.head _)) rfl rfl rfl
  exact ⟨⟨l, c⟩, ⟨position.ref, slots, rfl, rfl, hl, hc⟩, hline, hcharacter⟩

/-- What is taken for a position is one, if the records in it are sited. -/
theorem isAt_of_fit {r : Fitted} (h : (TypeExpr.model position.ref).fit family [] v = .ok r)
    (hr : r.value.Holds Sited) :
    ∃ p : Position, r.value.IsAt p ∧ 0 ≤ p.line ∧ 0 ≤ p.character := by
  obtain ⟨slots, hvalue⟩ : ∃ slots, r.value = .record position.ref slots := by
    by_cases hrecord : ∃ own slots, v = .record own slots
    · obtain ⟨own, slots, rfl⟩ := hrecord
      rw [fit_record_inv h]
      rw [TypeExpr.fit] at h
      split at h
      · next hkind => exact ⟨slots, by rw [eq_position_of_isKind hkind]⟩
      · cases h
    · have hv : ∀ own slots, v ≠ .record own slots := fun own slots heq =>
        hrecord ⟨own, slots, heq⟩
      obtain ⟨slots, _, hvalue⟩ := fit_object_inv find?_position hv h
      exact ⟨slots, hvalue⟩
  rw [hvalue] at hr ⊢
  exact (hr _ _ (.refl _)).position rfl

/-- The start and the end of a range that was put together are in order. -/
theorem range_sited {slots : List (Slot Value)}
    (h : fitFields family range.byName w range.fields = .ok ([], slots))
    (horder : checkOrder w slots = .ok ()) (hslots : ∀ s ∈ slots, s.value.Holds Sited) :
    ∃ s, Slot.Spans slots s ∧ s.IsSound := by
  have nodup : (range.fields.map (·.name)).Nodup := by decide
  have hplace : ∀ d ∈ range.fields, ∃ v, Value.attribute? slots d.name = some v ∧
      ∃ p : Position, v.IsAt p ∧ 0 ≤ p.line ∧ 0 ≤ p.character := by
    intro d hd
    have hd' : d.wire = d.name ∧ d.fallback.isNone = true ∧ d.type = .model position.ref := by
      rcases hd with _ | ⟨_, _ | ⟨_, ⟨⟩⟩⟩ <;> exact ⟨rfl, rfl, rfl⟩
    obtain ⟨v, r, _, hr, hattribute⟩ :=
      FieldDecl.taken_record nodup hd hd'.1 hd'.2.1 hd'.2.2 find?_position h
    obtain ⟨s, hs, hvalue⟩ := Option.map_eq_some_iff.1 hattribute
    have hholds := hslots s (Value.mem_of_slot? hs).1
    rw [hvalue] at hholds
    exact ⟨r.value, hattribute, isAt_of_fit hr hholds⟩
  obtain ⟨start, hstart, p, hp, hstartSound⟩ := hplace _ (.head _)
  obtain ⟨stop, hstop, q, hq, hstopSound⟩ := hplace _ (.tail _ (.head _))
  refine ⟨⟨p, q⟩, ⟨⟨start, hstart, hp⟩, stop, hstop, hq⟩, hstartSound, hstopSound, ?_⟩
  exact Position.upTo_iff_le.1 ((checkOrder_positions hstart hstop hp hq).2.1.1 horder)

theorem family_assures_sited : family.Assures Sited where
  known ref m hm w slots hfields horder hslots := by
    have href := (Family.mem_of_find? hm).2
    constructor
    · intro hown
      cases href.symm.trans hown
      cases hm.symm.trans find?_position
      exact position_sited hfields
    · intro hown
      cases href.symm.trans hown
      cases hm.symm.trans find?_range
      exact range_sited hfields (horder rfl) hslots
  unknown ref hnone := by
    constructor
    · rintro rfl
      cases hnone
    · rintro rfl
      cases hnone
  filled m hm d hd v hv := Value.holds_of_isAtom (fallbacks_atoms m hm d hd v hv)

/-! ### Written ranges -/

/-- What is written for a position denotes one without negative coordinates. -/
theorem encode_position (h : encode family v (.record position.ref) = .ok w) :
    ∃ p : Position, w.Denotes p ∧ 0 ≤ p.line ∧ 0 ≤ p.character := by
  have hkeyed := (family_regular.model find?_position).1.keyed
  obtain ⟨own, slots, rfl, _, hwrote⟩ := encode_record_wrote hkeyed find?_position h
  have hcoordinate : ∀ d ∈ position.fields, ∃ n : Int,
      (∃ x, w.at? d.wire = some x ∧ x.integer? = some n) ∧ 0 ≤ n := by
    intro d hd
    have hd' : d.asField.optional = false ∧ d.asField.nullable = false ∧
        d.asField.shape = .primitive ⟨.integer, some 0, none⟩ := by
      rcases hd with _ | ⟨_, _ | ⟨_, ⟨⟩⟩⟩ <;> exact ⟨rfl, rfl, rfl⟩
    obtain ⟨u, item, hitem, hencode⟩ := (hwrote d hd).needed hd'.1 hd'.2.1
    rw [hd'.2.2, encode] at hencode
    generalize u.unwrapped = code at hencode
    cases Primitive.accepts_of_accept hencode with
    | integer _ _ low => exact ⟨_, ⟨_, hitem, rfl⟩, low 0 rfl⟩
    | null kind => cases kind
    | text kind => cases kind
    | boolean kind => cases kind
    | float kind => cases kind
    | nearest kind => cases kind
  obtain ⟨l, hl, hline⟩ := hcoordinate _ (.head _)
  obtain ⟨c, hc, hcharacter⟩ := hcoordinate _ (.tail _ (.head _))
  exact ⟨⟨l, c⟩, ⟨hl, hc⟩, hline, hcharacter⟩

/-- What is written for a range denotes a span without negative coordinates, its end not before its
start. -/
theorem encode_range (h : encode family v (.record range.ref) = .ok w) :
    ∃ s, w.DenotesSpan s ∧ s.IsSound := by
  have hkeyed := (family_regular.model find?_range).1.keyed
  have nodup : (range.fields.map (·.name)).Nodup := by decide
  have hwire := encode_wire family_regular.sound h
  obtain ⟨own, slots, rfl, hobject, hwrote⟩ := encode_record_wrote hkeyed find?_range h
  obtain ⟨_, _, _, u, _, _, _, hvalid⟩ := encode_record_inv hkeyed find?_range h
  rw [range.validate_eq hobject] at hvalid
  obtain ⟨⟨vs, taken⟩, hfields, hcomplete⟩ := bind_eq_ok.1 hvalid
  obtain ⟨rfl, _, horder⟩ := Model.complete_inv hcomplete
  -- What validation takes for the start and the end is what they denote.
  have hplace : ∀ d ∈ range.fields, ∃ x v, ∃ p : Position, w.at? d.name = some x ∧ x.Denotes p ∧
      (0 ≤ p.line ∧ 0 ≤ p.character) ∧ Value.attribute? taken d.name = some v ∧ v.IsAt p := by
    intro d hd
    have hd' : d.wire = d.name ∧ d.fallback.isNone = true ∧ d.type = .model position.ref ∧
        d.asField.optional = false ∧ d.asField.nullable = false ∧
          d.asField.shape = .record position.ref := by
      rcases hd with _ | ⟨_, _ | ⟨_, ⟨⟩⟩⟩ <;> exact ⟨rfl, rfl, rfl, rfl, rfl, rfl⟩
    obtain ⟨hwire', hnone, htype, hoptional, hnullable, hshape⟩ := hd'
    obtain ⟨u, item, hitem, hencode⟩ := (hwrote d hd).needed hoptional hnullable
    rw [hshape] at hencode
    rw [hwire'] at hitem
    obtain ⟨p, hp, hsound⟩ := encode_position hencode
    obtain ⟨x, r, hx, hr, hattribute⟩ :=
      FieldDecl.taken_record nodup hd hwire' hnone htype find?_position hfields
    cases hitem.symm.trans hx
    obtain ⟨q, hq, hunique⟩ := hwire.placed family_regular.sound positional_position hx hr
    cases hunique p hp
    exact ⟨item, r.value, p, hitem, hp, hsound, hattribute, hq⟩
  obtain ⟨x, start, p, hx, hp, hstartSound, hstart, hstartAt⟩ := hplace _ (.head _)
  obtain ⟨y, stop, q, hy, hq, hstopSound, hstop, hstopAt⟩ := hplace _ (.tail _ (.head _))
  refine ⟨⟨p, q⟩, ⟨⟨x, hx, hp⟩, y, hy, hq⟩, hstartSound, hstopSound, ?_⟩
  exact Position.upTo_iff_le.1
    ((checkOrder_positions hstart hstop hstartAt hstopAt).2.1.1 (horder rfl))

/-! ### Ranges across the codec -/

/-- Under any shape over the catalogs, the shapes of all methods among them, every range in a
decoded value, and whatever is written at the place of a range, goes from a start to an end that
does not come before it, with no negative coordinate. -/
theorem ranges_sound (s : Shape) :
    (∀ exact w v, (decode family exact w s).outcome = .ok v →
      ∀ own slots, v.Contains (.record own slots) → family.isKind own range.ref = true →
        ∃ span, Slot.Spans slots span ∧ span.IsSound) ∧
    ∀ v w, encode family v s = .ok w →
      ∀ x, s.Places family range.ref x w → ∃ span, x.DenotesSpan span ∧ span.IsSound := by
  constructor
  · intro exact w v h own slots hin hkind
    have hown : own = range.ref := Family.eq_of_isKind (by decide +kernel) hkind
    exact (decode_holds family_assures_sited s h own slots hin).range hown
  · intro v w h x hx
    obtain ⟨u, hu⟩ := hx.encoded family_regular.sound h
    exact encode_range hu

end Catalog

end EditorProtocol
