import EditorProtocol.Proofs.Codec.Apart
import EditorProtocol.Proofs.Codec.Closed
import EditorProtocol.Proofs.Shape.Ambiguous

/-!
What the overlap analysis is worth for wire values. Two shapes that it sets apart share no closed
value, except for values that it overlooks: null is a value of a nullable shape and, unknown to the
analysis, may be one of the other shape, too, or stand there for the absence of a field. Bounds on a
float count for the analysis but not for decoding.
-/

namespace EditorProtocol

variable {F : Family} {a b s : Shape} {w : Value}

/-! ### Scalars by their forms -/

/-- The forms in which the values of a kind travel. -/
def PrimitiveKind.wireKinds : PrimitiveKind → List WireKind
  | .string => [.text]
  | .integer => [.integer]
  | .boolean => [.boolean]
  | .float => [.integer, .float]
  | .null => [.null]

theorem PrimitiveKind.wireKinds_disjoint {j k : PrimitiveKind} (h : j.compatible k = false) :
    ∀ form ∈ j.wireKinds, form ∉ k.wireKinds := by
  cases j <;> cases k <;> first | exact absurd h (by decide) | decide

/-- Two lists of codes that admit one value have a code in common. -/
theorem Codes.overlap_of_admits {c d : Codes} (hw : w.IsJson) (hc : c.admits w = true)
    (hd : d.admits w = true) : c.overlap d = true := by
  cases hw with
  | int n =>
      cases c with
      | integers ms =>
          cases d with
          | integers ns => exact List.any_eq_true.2 ⟨n, List.contains_iff_mem.1 hc, hd⟩
          | texts ts => cases hd
      | texts ss => cases hc
  | text s =>
      cases c with
      | integers ms => cases hc
      | texts ss =>
          cases d with
          | integers ns => cases hd
          | texts ts => exact List.any_eq_true.2 ⟨s, List.contains_iff_mem.1 hc, hd⟩
  | _ => cases c <;> cases hc

/-- What a value of some form is built of. -/
def WireKind.build : WireKind → Build
  | .array => .array
  | .object => .object
  | _ => .scalar

theorem PrimitiveKind.build_of_wireKinds (k : PrimitiveKind) :
    ∀ form ∈ k.wireKinds, form.build = .scalar := by
  cases k <;> decide

namespace Shape.Takes

/-- A value of a primitive travels in a form of its kind. -/
theorem primitive_inv {p : Primitive} (hw : w.IsJson) (h : (primitive p).Takes F w) :
    ∃ form ∈ p.kind.wireKinds, w.wireKind? = some form := by
  obtain ⟨v, hv⟩ := h
  cases hkind : p.kind with
  | float =>
      cases hw with
      | int n => exact ⟨.integer, by decide, rfl⟩
      | float x => exact ⟨.float, by decide, rfl⟩
      | _ =>
          rw [decode, Traced.outcome_of] at hv
          unfold Primitive.accept at hv
          rw [hkind] at hv
          cases hv
  | _ =>
      refine ⟨_, List.mem_cons_self, wireKind?_of_decode hw hv ?_⟩
      rw [Shape.wireKind?, hkind]

theorem enumeration_inv {e : EnumShape} (h : (enumeration e).Takes F w) :
    e.codes.admits w = true := by
  obtain ⟨v, hv⟩ := h
  rw [decode, Traced.outcome_of, EnumShape.decode] at hv
  obtain ⟨u, hu, _⟩ := bind_eq_ok.1 hv
  exact (EnumShape.accept_ok_iff.1 hu).2

/-- A code travels in a form of the kind of the codes. -/
theorem enumeration_kind {e : EnumShape} (h : (enumeration e).Takes F w) :
    ∃ form ∈ e.codes.kind.wireKinds, w.wireKind? = some form := by
  cases hcodes : e.codes with
  | integers ns =>
      refine ⟨.integer, List.mem_cons_self, EnumShape.wireKind?_of_admits ?_ h.enumeration_inv⟩
      rw [Shape.wireKind?, hcodes]
  | texts ss =>
      refine ⟨.text, List.mem_cons_self, EnumShape.wireKind?_of_admits ?_ h.enumeration_inv⟩
      rw [Shape.wireKind?, hcodes]

/-- An integer is within the bounds of the primitive that it is a value of. -/
theorem admits {p : Primitive} {n : Int} (h : (primitive p).Takes F (.int n))
    (hkind : p.kind = .integer) : p.admits n = true := by
  obtain ⟨v, hv⟩ := h
  rw [decode, Traced.outcome_of] at hv
  have hfloat : p.kind ≠ .float := by
    rw [hkind]
    intro h
    cases h
  obtain ⟨hconforms, _, heq⟩ := Primitive.accept_inv (F := F) hfloat hv
  cases heq (.int n)
  cases hconforms with
  | integer _ _ low high =>
      rw [Primitive.admits, Bool.and_eq_true, Option.all_eq_true, Option.all_eq_true]
      exact ⟨fun k hk => decide_eq_true (low k hk), fun k hk => decide_eq_true (high k hk)⟩

/-- An object is taken as a record if its fields are and make one. -/
theorem of_fields {ref : ModelRef} {m : Model} {fields : List Field}
    {values : List (String × Value)} {v : Value} (hw : w.isObject = true)
    (hm : F.find? ref = some m) (hfields : m.fields.mapM (·.field) = .ok fields)
    (hvalues : (decodeFields F false w ref fields).outcome = .ok values)
    (hv : m.assemble F w values = .ok v) : (record ref).Takes F w := by
  refine ⟨v, ?_⟩
  rw [decode, hw, hm]
  simp only [hfields, Bool.not_true, Bool.false_eq_true, if_false, Traced.outcome_bind, hvalues,
    ok_bind, Traced.outcome_of, hv]

/-- A value is built as its shape says. -/
theorem build_inv {i : Build} (hw : w.IsJson) (h : s.Takes F w) (hs : s.build? = some i) :
    ∃ form, w.wireKind? = some form ∧ form.build = i := by
  cases s with
  | primitive p =>
      cases hs
      obtain ⟨form, hform, hkind⟩ := h.primitive_inv hw
      exact ⟨form, hkind, p.kind.build_of_wireKinds form hform⟩
  | enumeration e =>
      cases hs
      obtain ⟨form, hform, hkind⟩ := h.enumeration_kind
      exact ⟨form, hkind, e.codes.kind.build_of_wireKinds form hform⟩
  | sequence element =>
      cases hs
      obtain ⟨xs, rfl⟩ := h.sequence_inv
      exact ⟨.array, rfl, rfl⟩
  | record ref =>
      cases hs
      obtain ⟨v, hv⟩ := h
      exact ⟨.object, wireKind?_of_decode hw hv rfl, rfl⟩
  | _ => cases hs

end Shape.Takes

/-! ### What is overlooked -/

/-- The values of two shapes that the overlap analysis does not see. -/
inductive Overlooked (F : Family) : Value → Shape → Shape → Prop
  | symm {w : Value} {a b : Shape} (h : Overlooked F w a b) : Overlooked F w b a
  /-- Null is a value of both shapes, of the second one within an alternative. -/
  | null {inner b : Shape} (withheld : b.Withheld) (taken : b.Takes F .null) :
      Overlooked F .null (.nullable inner) b
  /-- Null is the value of a field in one record and stands for its absence in the other. -/
  | absent {r s : ModelRef} {fs gs : List Field} {f g : Field} {w : Value}
      (left : F.fields r = .ok fs) (right : F.fields s = .ok gs) (mem_left : f ∈ fs)
      (mem_right : g ∈ gs) (wire_eq : g.wire = f.wire) (needed : f.optional = false)
      (nullable : f.nullable = true) (optional : g.optional = true)
      (not_nullable : g.nullable = false) (item : w.at? f.wire = some .null) :
      Overlooked F w (.record r) (.record s)
  /-- A code of an enumeration is outside the bounds of a float. -/
  | unbounded {p : Primitive} {e : EnumShape} {n : Int} (float : p.kind = .float)
      (outside : p.admits n = false) : Overlooked F (.int n) (.primitive p) (.enumeration e)
  | present {inner b : Shape} {w : Value} (not_null : w ≠ .null) (rest : Overlooked F w inner b) :
      Overlooked F w (.nullable inner) b
  | alternative {alternatives : List Shape} {s b : Shape} {w : Value} (mem : s ∈ alternatives)
      (rest : Overlooked F w s b) : Overlooked F w (.union alternatives) b
  | field {r s : ModelRef} {fs gs : List Field} {f g : Field} {w item : Value}
      (left : F.fields r = .ok fs) (right : F.fields s = .ok gs) (mem_left : f ∈ fs)
      (mem_right : g ∈ gs) (wire_eq : g.wire = f.wire)
      (needed : (f.optional && g.optional) = false) (item_eq : w.at? f.wire = some item)
      (rest : Overlooked F item f.shape g.shape) : Overlooked F w (.record r) (.record s)

/-- Texts are never overlooked. -/
theorem Overlooked.ne_text (h : Overlooked F w a b) (text : String) : w ≠ .text text := by
  induction h with
  | symm _ ih => exact ih
  | null => exact nofun
  | absent _ _ _ _ _ _ _ _ _ item =>
      rintro rfl
      cases item
  | unbounded => exact nofun
  | present _ _ ih => exact ih
  | alternative _ _ ih => exact ih
  | field _ _ _ _ _ _ item_eq =>
      rintro rfl
      cases item_eq

/-! ### What separates shapes separates their values -/

namespace Separate

/-- A code that is none of a primitive is overlooked or refused. -/
theorem listed_overlooked {p : Primitive} {e : EnumShape} (hw : w.IsJson)
    (h : e.codes.overlapPrimitive p = false) (hp : (Shape.primitive p).Takes F w)
    (he : (Shape.enumeration e).Takes F w) :
    Overlooked F w (.primitive p) (.enumeration e) := by
  obtain ⟨form, hform, hkind⟩ := hp.primitive_inv hw
  obtain ⟨form', hform', hkind'⟩ := he.enumeration_kind
  cases hkind.symm.trans hkind'
  unfold Codes.overlapPrimitive at h
  rcases Bool.and_eq_false_iff.1 h with h | h
  · exact (PrimitiveKind.wireKinds_disjoint h form hform hform').elim
  obtain ⟨c, hc, rfl⟩ := Codes.admits_inv he.enumeration_inv hw
  cases hcodes : e.codes with
  | texts ss =>
      rw [hcodes] at h
      cases h
  | integers ns =>
      rw [hcodes] at h hc
      obtain ⟨n, hn, rfl⟩ := List.mem_map.1 hc
      have houtside : p.admits n = false := Bool.eq_false_iff.2 (List.any_eq_false.1 h n hn)
      cases hk : p.kind with
      | float => exact .unbounded hk houtside
      | integer =>
          rw [hp.admits hk] at houtside
          cases houtside
      | _ =>
          rw [hk] at hform
          cases hkind
          exact absurd hform (by decide)

/-- A value that one record has and the other passes over is null. -/
theorem absent_overlooked {r s : ModelRef} {fs gs : List Field} {f g : Field} {item : Value}
    (hr : F.fields r = .ok fs) (hs : F.fields s = .ok gs) (hf : f ∈ fs) (hg : g ∈ gs)
    (hwire : g.wire = f.wire) (hneeded : (f.optional && g.optional) = false)
    (hfd : f.IsDecoded F false w) (hgd : g.IsDecoded F false w) (hfi : f.item? w = some item)
    (hgi : g.item? w = none) : Overlooked F w (.record r) (.record s) := by
  have hoptional := hgd.optional hgi
  have hitem := (Field.item?_some_iff.1 hfi).1
  rw [hoptional, Bool.and_true] at hneeded
  rcases Field.item?_none_iff.1 hgi with hnone | ⟨u, hat, hnull⟩
  · rw [hwire, hitem] at hnone
    cases hnone
  · rw [hwire] at hat
    cases hat.symm.trans hitem
    rw [hoptional, Bool.and_true, Bool.and_eq_true, Bool.not_eq_true', Value.isNull_iff] at hnull
    obtain ⟨rfl, hnot⟩ := hnull
    exact .absent hr hs hf hg hwire hneeded (hfd.nullable hfi) hoptional hnot hitem

/-- A field that sets two records apart sets apart its values. -/
theorem field_overlooked {r s : ModelRef} {fs gs : List Field} {f g : Field} (hw : w.IsJson)
    (hr : F.fields r = .ok fs) (hs : F.fields s = .ok gs) (hf : f ∈ fs) (hg : g ∈ gs)
    (hwire : g.wire = f.wire) (hneeded : (f.optional && g.optional) = false)
    (hclosed : Closed F (.record r) w ∨ Closed F (.record s) w)
    (ha : (Shape.record r).Takes F w) (hb : (Shape.record s).Takes F w)
    (ih : ∀ item, item.IsJson → Closed F f.shape item ∨ Closed F g.shape item →
      f.shape.Takes F item → g.shape.Takes F item → Overlooked F item f.shape g.shape) :
    Overlooked F w (.record r) (.record s) := by
  obtain ⟨_, fs', hr', hfs⟩ := ha.record_inv
  obtain ⟨_, gs', hs', hgs⟩ := hb.record_inv
  cases hr.symm.trans hr'
  cases hs.symm.trans hs'
  have hfd := hfs f hf
  have hgd := hgs g hg
  cases hfi : f.item? w with
  | some item =>
      cases hgi : g.item? w with
      | some item' =>
          -- The two records have one value at the key that they share.
          have hitem := (Field.item?_some_iff.1 hfi).1
          have hitem' := (Field.item?_some_iff.1 hgi).1
          rw [hwire] at hitem'
          cases hitem.symm.trans hitem'
          refine .field hr hs hf hg hwire hneeded hitem (ih item (hw.at? hitem) ?_
            (hfd.takes hfi) (hgd.takes hgi))
          exact hclosed.imp (fun h => h.value_inv hr hf hfi) fun h => h.value_inv hs hg hgi
      | none => exact absent_overlooked hr hs hf hg hwire hneeded hfd hgd hfi hgi
  | none =>
      cases hgi : g.item? w with
      | some item =>
          exact .symm (absent_overlooked hs hr hg hf hwire.symm (by rwa [Bool.and_comm]) hgd hfd
            hgi hfi)
      | none =>
          rw [hfd.optional hfi, hgd.optional hgi] at hneeded
          cases hneeded

/-- Of two records that need a field that the other lacks, only one has room for a closed value. -/
theorem exclusive_disjoint {r s : ModelRef} {fs gs : List Field} {g : Field}
    (hr : F.fields r = .ok fs) (hs : F.fields s = .ok gs) (hg : g ∈ gs)
    (hneeded : g.optional = false) (hlacks : Field.find? fs g.wire = none)
    (hclosed : Closed F (.record r) w) : ¬ (Shape.record s).Takes F w := by
  intro hb
  obtain ⟨_, gs', hs', hgs⟩ := hb.record_inv
  cases hs.symm.trans hs'
  obtain ⟨item, _, hitem⟩ := (hgs g hg).exists_item hneeded
  obtain ⟨f, hf, hwire⟩ := hclosed.keys_inv hr hitem
  exact Field.find?_eq_none hlacks f hf hwire

/-- A closed value of two shapes that are apart for a reason is one that the analysis overlooks. -/
theorem overlooked (h : Separate F a b) (hw : w.IsJson) (hclosed : Closed F a w ∨ Closed F b w)
    (ha : a.Takes F w) (hb : b.Takes F w) : Overlooked F w a b := by
  induction h generalizing w with
  | symm _ ih => exact .symm (ih hw hclosed.symm hb ha)
  | build left right ne =>
      obtain ⟨form, hform, hi⟩ := ha.build_inv hw left
      obtain ⟨form', hform', hj⟩ := hb.build_inv hw right
      cases hform.symm.trans hform'
      exact absurd (hi.symm.trans hj) ne
  | primitives incompatible =>
      obtain ⟨form, hform, hkind⟩ := ha.primitive_inv hw
      obtain ⟨form', hform', hkind'⟩ := hb.primitive_inv hw
      cases hkind.symm.trans hkind'
      exact (PrimitiveKind.wireKinds_disjoint incompatible form hform hform').elim
  | listed unlisted => exact listed_overlooked hw unlisted ha hb
  | codes disjoint =>
      rw [Codes.overlap_of_admits hw ha.enumeration_inv hb.enumeration_inv] at disjoint
      cases disjoint
  | nullable withheld _ ih =>
      by_cases hnull : w = .null
      · subst hnull
        exact .null withheld hb
      · exact .present hnull
          (ih hw (hclosed.imp_left (·.nullable_inv hnull)) (ha.nullable_inv hnull) hb)
  | union _ ih =>
      rcases hclosed with hclosed | hclosed
      · obtain ⟨s, hs, htaken, hclosed⟩ := hclosed.union_inv
        exact .alternative hs (ih s hs hw (.inl hclosed) htaken hb)
      · obtain ⟨s, hs, htaken⟩ := ha.union_inv
        exact .alternative hs (ih s hs hw (.inr hclosed) htaken hb)
  | field left right mem shared needed _ ih =>
      obtain ⟨hg, hwire⟩ := Field.find?_eq_some shared
      exact field_overlooked hw left right mem hg hwire needed hclosed ha hb fun _ => ih
  | exclusive left right mem_left needed_left lacks_right mem_right needed_right lacks_left =>
      rcases hclosed with hclosed | hclosed
      · exact (exclusive_disjoint left right mem_right needed_right lacks_left hclosed hb).elim
      · exact (exclusive_disjoint right left mem_left needed_left lacks_right hclosed ha).elim

end Separate

/-! ### What the analysis is worth -/

/-- A closed value that two shapes share is reported, unless it is one that the analysis overlooks;
so the alternatives of a union that is not reported share no other closed value. -/
theorem shared_values_reported (F : Family) :
    (∀ a b w, w.IsJson → (Closed F a w ∨ Closed F b w) → a.Takes F w → b.Takes F w →
      ¬ Overlooked F w a b →
        F.mayOverlap a b ≠ .ok false ∧ (F.Shaped → F.mayOverlap a b = .ok true)) ∧
      ∀ s unions alternatives, F.ambiguousUnions s = .ok unions →
        .union alternatives ∈ (F.walk s).shapes → .union alternatives ∉ unions →
          alternatives.Pairwise fun a b =>
            ∀ w, w.IsJson → (Closed F a w ∨ Closed F b w) → a.Takes F w → b.Takes F w →
              Overlooked F w a b := by
  constructor
  · intro a b w hw hclosed ha hb hseen
    have hreported : F.mayOverlap a b ≠ .ok false := fun h =>
      hseen ((Family.separate_of_mayOverlap h).overlooked hw hclosed ha hb)
    exact ⟨hreported, fun hF => hF.mayOverlap a b hreported⟩
  · intro s unions alternatives h hmem hunlisted
    refine (Family.pairwise_of_unreported h hmem hunlisted).imp fun hseparate w => ?_
    exact hseparate.overlooked

/-- A text is seen to be a value of a text that may be null and of one that may not. -/
theorem shared_values_reported_text :
    (Family.mk []).mayOverlap (.nullable (.ofKind .string)) (.ofKind .string) = .ok true := by
  have htext : (decode ⟨[]⟩ false (.text "now") (.ofKind .string)).outcome = .ok (.text "now") := by
    rw [Shape.ofKind, decode]
    rfl
  refine ((shared_values_reported ⟨[]⟩).1 _ _ (.text "now") (.text _) (.inl ?_) ?_ ⟨_, htext⟩
    fun h => h.ne_text "now" rfl).2 (List.forall_mem_nil _)
  · exact .present (.primitive _ _)
  · refine ⟨.text "now", ?_⟩
    rw [decode]
    exact htext

/-- A model that needs the value of its only key, which may be null. -/
def needing : Model := .named "A" [⟨"x", "x", .optional .integer, none⟩]

/-- A model that may go without the same key, whose value is a text. -/
def lenient : Model := .named "B" [⟨"x", "x", .text, some (.text "")⟩]

def clashing : Family := ⟨[needing, lenient]⟩

theorem needing_takes_null :
    (Shape.record needing.ref).Takes clashing (.object [("x", .null)]) := by
  have hdecode : (decodeFields clashing false (.object [("x", .null)]) needing.ref
      [⟨"x", "x", .nullable (.ofKind .integer), false⟩]).outcome = .ok [("x", .null)] := by
    simp [decodeFields, decode, Value.at?, Value.lookup, Value.isNull, Field.nullable,
      Shape.isNullable]
  have hoptional : TypeExpr.optional .integer = .union [.integer, .null] false := rfl
  have hfit : fitFields clashing needing.byName (.object [("x", .null)]) needing.fields =
      .ok ([], [⟨"x", .null, .given⟩]) := by
    simp [needing, Model.named, Model.override, fitFields, FieldDecl.given?, Value.at?,
      Value.lookup, hoptional, TypeExpr.fit, TypeExpr.isNull, Value.isNull]
    rfl
  refine .of_fields (m := needing) rfl rfl rfl hdecode
    (v := .record needing.ref [⟨"x", .null, .given⟩]) ?_
  rw [Model.assemble, Model.make, Model.validate, hfit]
  rfl

theorem lenient_takes_null :
    (Shape.record lenient.ref).Takes clashing (.object [("x", .null)]) := by
  have hdecode : (decodeFields clashing false (.object [("x", .null)]) lenient.ref
      [⟨"x", "x", .ofKind .string, true⟩]).outcome = .ok [] := by
    simp [decodeFields, Value.at?, Value.lookup, Value.isNull, Field.nullable, Shape.isNullable,
      Shape.ofKind]
  have hfit : fitFields clashing lenient.byName (.object []) lenient.fields =
      .ok ([], [⟨"x", .text "", .filled⟩]) := by
    simp [lenient, Model.named, Model.override, fitFields, FieldDecl.given?, Value.at?,
      Value.lookup]
  refine .of_fields (m := lenient) rfl rfl rfl hdecode
    (v := .record lenient.ref [⟨"x", .text "", .filled⟩]) ?_
  rw [Model.assemble, Model.make, Model.validate, hfit]
  rfl

/-- The analysis sets two models apart that both take an object with null at the key they share. -/
theorem shared_null_unreported :
    Closed clashing (.record needing.ref) (.object [("x", .null)]) ∧
      (Shape.record needing.ref).Takes clashing (.object [("x", .null)]) ∧
      (Shape.record lenient.ref).Takes clashing (.object [("x", .null)]) ∧
      clashing.mayOverlap (.record needing.ref) (.record lenient.ref) = .ok false := by
  have hneeding : needing.fields.mapM (·.field) =
      .ok [⟨"x", "x", .nullable (.ofKind .integer), false⟩] := rfl
  have hlenient : lenient.fields.mapM (·.field) = .ok [⟨"x", "x", .ofKind .string, true⟩] := rfl
  have hfields : clashing.fields needing.ref =
      .ok [⟨"x", "x", .nullable (.ofKind .integer), false⟩] := rfl
  refine ⟨.record hfields ?_ ?_, needing_takes_null, lenient_takes_null, ?_⟩
  · intro key item hitem
    obtain ⟨rfl, rfl⟩ := Prod.mk.inj (List.mem_singleton.1 (Value.mem_of_lookup hitem))
    exact ⟨_, List.mem_cons_self, rfl⟩
  · intro f hf item hitem
    cases List.mem_singleton.1 hf
    cases hitem
    exact .absent _
  · rw [Family.mayOverlap, Family.overlapFrom_records (m := needing) (n := lenient) (by decide)
      List.not_mem_nil rfl rfl, hneeding, hlenient]
    simp [Family.distinguish, Field.find?, Family.overlapFrom, Shape.ofKind,
      PrimitiveKind.compatible]
    rfl

end EditorProtocol
