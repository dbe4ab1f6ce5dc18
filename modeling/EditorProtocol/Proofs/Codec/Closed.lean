import EditorProtocol.Proofs.Codec.Decoding
import EditorProtocol.Proofs.Shape.Field

/-!
Wire values that are taken under a shape, and those among them that carry nothing undeclared. A
closed value has, in every object that stands for a record, only keys of the record's fields; what
counts in a union is an alternative that takes the value. Nothing is said here about the family:
the models may refer to one another in any way.
-/

namespace EditorProtocol

variable {F : Family} {s : Shape} {w v : Value}

/-- A wire value stands for a typed value of a shape. -/
def Shape.Takes (F : Family) (s : Shape) (w : Value) : Prop :=
  ∃ v, (decode F false w s).outcome = .ok v

/-- Every object in a wire value that stands for a record has declared keys only; what is in an
opaque part does not count. -/
inductive Closed (F : Family) : Shape → Value → Prop
  | primitive (p : Primitive) (w : Value) : Closed F (.primitive p) w
  | enumeration (e : EnumShape) (w : Value) : Closed F (.enumeration e) w
  | any (w : Value) : Closed F .any w
  | absent (inner : Shape) : Closed F (.nullable inner) .null
  | present {inner : Shape} {w : Value} (value : Closed F inner w) : Closed F (.nullable inner) w
  | sequence {element : Shape} {xs : List Value} (items : ∀ x ∈ xs, Closed F element x) :
      Closed F (.sequence element) (.list xs)
  | union {alternatives : List Shape} {s : Shape} {w : Value} (listed : s ∈ alternatives)
      (taken : s.Takes F w) (value : Closed F s w) : Closed F (.union alternatives) w
  | record {ref : ModelRef} {fields : List Field} {w : Value}
      (fields_eq : F.fields ref = .ok fields)
      (keys : ∀ key item, w.at? key = some item → ∃ f ∈ fields, f.wire = key)
      (values : ∀ f ∈ fields, ∀ item, f.item? w = some item → Closed F f.shape item) :
      Closed F (.record ref) w

/-! ### What is taken -/

namespace Shape.Takes

theorem nullable_inv {inner : Shape} (h : (nullable inner).Takes F w) (hnull : w ≠ .null) :
    inner.Takes F w := by
  obtain ⟨v, hv⟩ := h
  rw [decode, if_neg (mt Value.isNull_iff.1 hnull)] at hv
  exact ⟨v, hv⟩

theorem sequence_inv {element : Shape} (h : (sequence element).Takes F w) : ∃ xs, w = .list xs := by
  obtain ⟨v, hv⟩ := h
  cases w with
  | list xs => exact ⟨xs, rfl⟩
  | _ =>
      rw [decode] at hv
      · cases hv
      · intros; contradiction

/-- Each alternative that is tried has the result of decoding under it. -/
theorem tried {alternatives : List Shape} {tries : List (Shape × Except Mismatch Value)}
    (h : (tryAlternatives F false w alternatives).outcome = .ok tries) :
    ∀ v s, (s, Except.ok v) ∈ tries → s ∈ alternatives ∧ s.Takes F w := by
  induction alternatives generalizing tries with
  | nil =>
      rw [tryAlternatives] at h
      cases h
      exact fun v s hs => (List.not_mem_nil hs).elim
  | cons t rest ih =>
      rw [tryAlternatives, Traced.outcome_bind] at h
      obtain ⟨r, hr, h⟩ := bind_eq_ok.1 h
      rw [Traced.outcome_bind] at h
      obtain ⟨rs, hrs, h⟩ := bind_eq_ok.1 h
      cases h
      intro v s hs
      rcases List.mem_cons.1 hs with hhead | hs
      · obtain ⟨rfl, rfl⟩ := Prod.mk.inj hhead
        refine ⟨List.mem_cons_self, v, ?_⟩
        unfold Traced.attempt at hr
        split at hr
        · next hv =>
          cases hr
          exact hv
        · cases hr
        · cases hr
      · exact ⟨List.mem_cons_of_mem t (ih hrs v s hs).1, (ih hrs v s hs).2⟩

theorem mem_of_splitTries {tries : List (Shape × Except Mismatch Value)} {matched : Shape × Value}
    (h : matched ∈ (splitTries tries).1) : (matched.1, Except.ok matched.2) ∈ tries := by
  induction tries with
  | nil => cases h
  | cons t rest ih =>
      obtain ⟨s, _ | v⟩ := t
      · exact List.mem_cons_of_mem _ (ih h)
      · rcases List.mem_cons.1 h with rfl | h
        · exact List.mem_cons_self
        · exact List.mem_cons_of_mem _ (ih h)

/-- What a union takes, one of its alternatives takes. -/
theorem union_inv {alternatives : List Shape} (h : (union alternatives).Takes F w) :
    ∃ s ∈ alternatives, s.Takes F w := by
  obtain ⟨v, hv⟩ := h
  rw [decode, Traced.outcome_bind] at hv
  obtain ⟨tries, htries, hv⟩ := bind_eq_ok.1 hv
  have hmatched : ∃ matched, matched ∈ (splitTries tries).1 := by
    unfold chooseAlternative at hv
    split at hv
    · cases hv
    · next s v failed hsplit => exact ⟨(s, v), hsplit ▸ List.mem_cons_self⟩
    · next s v more failed _ hsplit => exact ⟨(s, v), hsplit ▸ List.mem_cons_self⟩
  obtain ⟨matched, hmatched⟩ := hmatched
  obtain ⟨hmem, htaken⟩ := tried htries _ _ (mem_of_splitTries hmatched)
  exact ⟨_, hmem, htaken⟩

/-- What is taken as a record is an object, and each of its fields is decoded. -/
theorem record_inv {ref : ModelRef} (h : (record ref).Takes F w) :
    w.isObject = true ∧
      ∃ fields, F.fields ref = .ok fields ∧ ∀ f ∈ fields, f.IsDecoded F false w := by
  obtain ⟨v, hv⟩ := h
  have hobject := isObject_of_decode hv
  refine ⟨hobject, ?_⟩
  rw [decode, hobject] at hv
  unfold Family.fields
  cases hm : F.find? ref with
  | none => exact ⟨[], rfl, fun f hf => (List.not_mem_nil hf).elim⟩
  | some m =>
      rw [hm] at hv
      simp only [Bool.not_true, Bool.false_eq_true, if_false] at hv
      cases hfields : m.fields.mapM (·.field) with
      | error e =>
          rw [hfields] at hv
          cases hv
      | ok fields =>
          rw [hfields] at hv
          simp only [Traced.outcome_bind] at hv
          obtain ⟨values, hvalues, _⟩ := bind_eq_ok.1 hv
          exact ⟨fields, hfields, (decodeFields_ok_iff.1 hvalues).1⟩

end Shape.Takes

/-- The value of a field is taken under the shape of the field. -/
theorem Field.IsDecoded.takes {f : Field} {item : Value} (h : f.IsDecoded F false w)
    (hitem : f.item? w = some item) : f.shape.Takes F item := by
  unfold IsDecoded at h
  rw [hitem] at h
  exact h.2

/-- Null is the value of a field only if the field is nullable. -/
theorem Field.IsDecoded.nullable {f : Field} (h : f.IsDecoded F false w)
    (hitem : f.item? w = some .null) : f.nullable = true := by
  unfold IsDecoded at h
  rw [hitem] at h
  exact h.1 rfl

/-- A field without a value is optional. -/
theorem Field.IsDecoded.optional {f : Field} (h : f.IsDecoded F false w)
    (hitem : f.item? w = none) : f.optional = true := by
  unfold IsDecoded at h
  rwa [hitem] at h

/-- A field that needs a value has one. -/
theorem Field.IsDecoded.exists_item {f : Field} (h : f.IsDecoded F false w)
    (needed : f.optional = false) :
    ∃ item, f.item? w = some item ∧ w.at? f.wire = some item := by
  cases hitem : f.item? w with
  | none => cases needed.symm.trans (h.optional hitem)
  | some item => exact ⟨item, rfl, (Field.item?_some_iff.1 hitem).1⟩

/-! ### What a closed value consists of -/

namespace Closed

theorem nullable_inv {inner : Shape} (h : Closed F (.nullable inner) w) (hnull : w ≠ .null) :
    Closed F inner w := by
  cases h with
  | absent => exact absurd rfl hnull
  | present value => exact value

theorem union_inv {alternatives : List Shape} (h : Closed F (.union alternatives) w) :
    ∃ s ∈ alternatives, s.Takes F w ∧ Closed F s w := by
  cases h with
  | union listed taken value => exact ⟨_, listed, taken, value⟩

theorem keys_inv {ref : ModelRef} {fields : List Field} (h : Closed F (.record ref) w)
    (hfields : F.fields ref = .ok fields) {key : String} {item : Value}
    (hitem : w.at? key = some item) : ∃ f ∈ fields, f.wire = key := by
  cases h with
  | record fields_eq keys =>
      cases fields_eq.symm.trans hfields
      exact keys key item hitem

theorem value_inv {ref : ModelRef} {fields : List Field} (h : Closed F (.record ref) w)
    (hfields : F.fields ref = .ok fields) {f : Field} (hf : f ∈ fields) {item : Value}
    (hitem : f.item? w = some item) : Closed F f.shape item := by
  cases h with
  | record fields_eq _ values =>
      cases fields_eq.symm.trans hfields
      exact values f hf item hitem

end Closed

end EditorProtocol
