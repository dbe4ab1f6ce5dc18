import Mathlib.Data.List.Nodup
import EditorProtocol.Proofs.Shape.Regular

/-!
Declarations and the fields they become. A field keeps the name and the key of its declaration and
is optional if there is something to fill in for it; its shape is the shape of the declared type,
without the null that only stands for absence.
-/

namespace EditorProtocol

/-! ### Fields by their keys -/

namespace Field

variable {fields : List Field} {key : String} {f : Field}

theorem find?_eq_some (h : find? fields key = some f) : f ∈ fields ∧ f.wire = key := by
  induction fields with
  | nil => cases h
  | cons g rest ih =>
      rw [find?] at h
      split at h
      · next hkey =>
        cases h
        exact ⟨List.mem_cons_self, hkey⟩
      · exact ⟨List.mem_cons_of_mem g (ih h).1, (ih h).2⟩

theorem find?_eq_none (h : find? fields key = none) : ∀ f ∈ fields, f.wire ≠ key := by
  induction fields with
  | nil => exact fun f hf => (List.not_mem_nil hf).elim
  | cons g rest ih =>
      rw [find?] at h
      split at h
      · cases h
      · next hkey => exact List.forall_mem_cons.2 ⟨hkey, ih h⟩

end Field

/-! ### Declarations -/

namespace FieldDecl

variable {F : Family} {d : FieldDecl} {f : Field}

theorem field_eq (h : d.field.isOk = true) : d.field = .ok d.asField := by
  unfold asField
  cases hfield : d.field with
  | error e =>
      rw [hfield] at h
      cases h
  | ok f => rfl

/-- What the field of a declaration takes from it. -/
theorem field_inv (h : d.field = .ok f) :
    f.name = d.name ∧ f.wire = d.wire ∧ f.optional = d.fallback.isSome ∧
      (d.type.shape = .ok f.shape ∨
        d.type.shape = .ok (.nullable f.shape) ∧ f.optional = true) := by
  unfold field at h
  cases hshape : d.type.shape with
  | error e =>
      rw [hshape] at h
      cases h
  | ok shape =>
      rw [hshape] at h
      cases shape with
      | nullable inner =>
          change (if d.fallback.isSome && !d.type.marks.contains .keepNull then _ else _) = _ at h
          split at h
          · next hdrops =>
            cases h
            exact ⟨rfl, rfl, rfl, .inr ⟨rfl, (Bool.and_eq_true_iff.1 hdrops).1⟩⟩
          · cases h
            exact ⟨rfl, rfl, rfl, .inl rfl⟩
      | _ =>
          cases h
          exact ⟨rfl, rfl, rfl, .inl rfl⟩

theorem asField_name (h : d.field.isOk = true) : d.asField.name = d.name :=
  (field_inv (field_eq h)).1

theorem asField_wire (h : d.field.isOk = true) : d.asField.wire = d.wire :=
  (field_inv (field_eq h)).2.1

theorem asField_optional (h : d.field.isOk = true) : d.asField.optional = d.fallback.isSome :=
  (field_inv (field_eq h)).2.2.1

/-- The type of a field has the shape of the field, or that shape or null. -/
theorem shape_type (h : d.field.isOk = true) :
    d.type.shape = .ok d.asField.shape ∨
      d.type.shape = .ok (.nullable d.asField.shape) ∧ d.asField.optional = true :=
  (field_inv (field_eq h)).2.2.2

/-- Whether null only stands for the absence of a value. -/
def dropsNull (d : FieldDecl) : Bool := d.asField.optional && !d.asField.nullable

namespace Regular

theorem name_eq (hd : d.Regular F) : d.asField.name = d.name := asField_name hd.shaped

theorem wire_eq (hd : d.Regular F) : d.asField.wire = d.wire := asField_wire hd.shaped

theorem optional_eq (hd : d.Regular F) : d.asField.optional = d.fallback.isSome :=
  asField_optional hd.shaped

theorem type_shape (hd : d.Regular F) :
    d.type.shape = .ok d.asField.shape ∨
      d.type.shape = .ok (.nullable d.asField.shape) ∧ d.asField.optional = true :=
  shape_type hd.shaped

/-- There is only null to fill in. -/
theorem eq_null_of_fallback (hd : d.Regular F) {v : Value} (h : d.fallback = some v) :
    v = .null := by
  have hnull := hd.fallback
  rw [h, Option.all_some] at hnull
  exact Value.isNull_iff.1 hnull

theorem fallback_of_optional (hd : d.Regular F) (h : d.asField.optional = true) :
    d.fallback = some .null := by
  rw [hd.optional_eq, Option.isSome_iff_exists] at h
  obtain ⟨v, hv⟩ := h
  rw [hv, hd.eq_null_of_fallback hv]

end Regular

end FieldDecl

/-- A model whose fields have shapes, and names and keys that tell them apart. -/
structure Model.Keyed (m : Model) : Prop where
  names : (m.fields.map (·.name)).Nodup
  wires : (m.fields.map (·.wire)).Nodup
  byName : m.byName = true
  apart : ∀ d ∈ m.fields, ∀ e ∈ m.fields, d.wire = e.name → d.name = e.name
  shaped : ∀ d ∈ m.fields, d.field.isOk = true

namespace Model

variable {F : Family} {m : Model}

theorem Regular.keyed (hm : m.Regular F) : m.Keyed where
  names := hm.names
  wires := hm.wires
  byName := hm.byName
  apart := hm.apart
  shaped d hd := (hm.fields d hd).shaped

theorem declares_iff {name : String} : m.declares name = true ↔ ∃ d ∈ m.fields, d.name = name := by
  unfold declares
  rw [List.any_eq_true]
  simp only [beq_iff_eq]

theorem fields_eq (hm : m.Keyed) :
    m.fields.mapM (·.field) = .ok (m.fields.map FieldDecl.asField) := by
  have hfields : ∀ d ∈ m.fields, d.field = .ok d.asField := fun d hd =>
    FieldDecl.field_eq (hm.shaped d hd)
  generalize m.fields = ds at hfields
  induction ds with
  | nil => rfl
  | cons d ds ih =>
      rw [List.mapM_cons, hfields d List.mem_cons_self,
        ih fun e he => hfields e (List.mem_cons_of_mem d he)]
      rfl

/-- The keys of the fields are the declared ones. -/
theorem Keyed.wires_fields (hm : m.Keyed) :
    (m.fields.map FieldDecl.asField).map (·.wire) = m.fields.map (·.wire) := by
  rw [List.map_map]
  exact List.map_congr_left fun d hd => FieldDecl.asField_wire (hm.shaped d hd)

theorem Keyed.fieldWires (hm : m.Keyed) :
    ((m.fields.map FieldDecl.asField).map (·.wire)).Nodup := by
  rw [hm.wires_fields]
  exact hm.wires

namespace Regular

/-- Declarations of one name are the same. -/
theorem eq_of_name (hm : m.Regular F) {d e : FieldDecl} (hd : d ∈ m.fields) (he : e ∈ m.fields)
    (h : d.name = e.name) : d = e := List.inj_on_of_nodup_map hm.names hd he h

end Regular

end Model

theorem TypeExpr.isInteger_iff {t : TypeExpr} :
    t.isInteger = true ↔ t = .integer ∨ ∃ marks, t = .marked .integer marks := by
  constructor
  · intro h
    unfold isInteger at h
    split at h
    · exact .inl rfl
    · exact .inr ⟨_, rfl⟩
    · cases h
  · rintro (rfl | ⟨marks, rfl⟩)
    · rfl
    · rfl

/-- The model of positions has a line and a character. -/
theorem Family.isPositional_inv {F : Family} {t : TypeExpr} (h : F.isPositional t = true) :
    ∃ ref m, t = .model ref ∧ F.find? ref = some m ∧ ref.kind = .position ∧
      m.Needs "line" TypeExpr.isInteger ∧ m.Needs "character" TypeExpr.isInteger := by
  unfold isPositional at h
  split at h
  · next ref =>
    split at h
    · next m hm =>
      simp only [Bool.and_eq_true, List.any_eq_true, beq_iff_eq] at h
      obtain ⟨⟨hkind, d, hd, ⟨⟨hname, hwire⟩, hnone⟩, hinteger⟩, e, he, ⟨⟨hname', hwire'⟩, hnone'⟩,
        hinteger'⟩ := h
      exact ⟨ref, m, rfl, hm, hkind, ⟨d, hd, hname, hwire, hnone, hinteger⟩,
        ⟨e, he, hname', hwire', hnone', hinteger'⟩⟩
    · cases h
  · cases h

theorem Shape.isNullable_iff {s : Shape} : s.isNullable = true ↔ ∃ inner, s = .nullable inner := by
  constructor
  · intro h
    cases s with
    | nullable inner => exact ⟨inner, rfl⟩
    | _ => cases h
  · rintro ⟨inner, rfl⟩
    rfl

/-- The shape of a field whose type has a shape without null. -/
theorem FieldDecl.shape_eq {d : FieldDecl} (hd : d.field.isOk = true) {s : Shape}
    (h : d.type.shape = .ok s) (hs : s.isNullable = false) : d.asField.shape = s := by
  rcases shape_type hd with hshape | ⟨hshape, _⟩
  · exact Except.ok.inj (hshape.symm.trans h)
  · cases Except.ok.inj (hshape.symm.trans h)
    cases hs

theorem FieldDecl.integer_shape {d : FieldDecl} (hd : d.field.isOk = true)
    (h : d.type.isInteger = true) :
    ∃ p : Primitive, p.kind = .integer ∧ d.asField.shape = .primitive p := by
  rcases TypeExpr.isInteger_iff.1 h with htype | ⟨marks, htype⟩
  · exact ⟨_, rfl, shape_eq hd (by rw [htype]; rfl) rfl⟩
  · exact ⟨_, rfl, shape_eq hd (by rw [htype]; rfl) rfl⟩

/-- The field of a type of records has the shape of these records. -/
theorem FieldDecl.record_shape {d : FieldDecl} (hd : d.field.isOk = true) {ref : ModelRef}
    (h : d.type = .model ref) : d.asField.shape = .record ref :=
  shape_eq hd (by rw [h]; rfl) rfl

/-- Where a model needs a position, its field has the shape of a model of positions. -/
theorem Model.Keyed.positional {F : Family} {m : Model} (hm : m.Keyed) {name : String}
    (h : m.Needs name F.isPositional) :
    ∃ d ∈ m.fields, ∃ ref, d.name = name ∧ d.wire = name ∧ d.fallback.isNone = true ∧
      d.type = .model ref ∧ d.asField.shape = .record ref ∧
        F.isPositional (.model ref) = true := by
  obtain ⟨d, hd, hname, hwire, hnone, hpos⟩ := h
  obtain ⟨ref, _, htype, _⟩ := Family.isPositional_inv hpos
  rw [htype] at hpos
  exact ⟨d, hd, ref, hname, hwire, hnone, htype,
    FieldDecl.record_shape (hm.shaped d hd) htype, hpos⟩

/-- A model that a regular family has under a reference. -/
theorem Family.Regular.model {F : Family} (hF : F.Regular) {ref : ModelRef} {m : Model}
    (h : F.find? ref = some m) : m.Regular F ∧ m.ref = ref :=
  ⟨hF m (mem_of_find? h).1, (mem_of_find? h).2⟩

/-- The fields of a record shape are those of the declarations of its model. -/
theorem Model.Keyed.family_fields {F : Family} {ref : ModelRef} {m : Model} (hm : m.Keyed)
    (h : F.find? ref = some m) : F.fields ref = .ok (m.fields.map FieldDecl.asField) := by
  rw [Family.fields, h]
  exact Model.fields_eq hm

theorem Family.Regular.fields {F : Family} (hF : F.Regular) {ref : ModelRef} {m : Model}
    (h : F.find? ref = some m) : F.fields ref = .ok (m.fields.map FieldDecl.asField) :=
  (hF.model h).1.keyed.family_fields h

end EditorProtocol
