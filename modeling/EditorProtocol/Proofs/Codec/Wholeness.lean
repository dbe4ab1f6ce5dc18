import EditorProtocol.Proofs.Codec.Dumping
import EditorProtocol.Proofs.Shape.Field

/-!
Values with everything in them that is needed to write them: their records have the attributes that
their models declare, and their bytes are texts. A record that is made without validation is such a
value if whole values are given for all fields that must be there, and so is a copy of a whole
record with other whole values.
-/

namespace EditorProtocol

variable {F : Family} {m : Model} {ref own : ModelRef} {slots : List (Slot Value)} {u v : Value}
  {name : String} {values : List (String × Value)}

/-! ### Missing attributes -/

namespace Value

/-- There is a record in a value without an attribute that its model declares. -/
def Misses (F : Family) (v : Value) (own : ModelRef) (name : String) : Prop :=
  ∃ slots m, v.Contains (.record own slots) ∧ F.find? own = some m ∧ m.declares name = true ∧
    slot? slots name = none

theorem Misses.part (mem : u ∈ v.parts) (h : u.Misses F own name) : v.Misses F own name := by
  obtain ⟨slots, m, hcontains, hmissing⟩ := h
  exact ⟨slots, m, .part mem hcontains, hmissing⟩

/-- All records in a value have the attributes that their models declare, and all bytes are
texts. -/
structure IsWhole (F : Family) (v : Value) : Prop where
  attributes : ∀ own name, ¬v.Misses F own name
  bytes : ∀ f, ¬v.Garbles f

/-- A value that is no record and no bytes is whole if its parts are. -/
theorem isWhole_of_parts (hrecord : ∀ own slots, v ≠ .record own slots)
    (hbytes : ∀ bs, v ≠ .bytes bs) (h : ∀ p ∈ v.parts, p.IsWhole F) : v.IsWhole F := by
  constructor
  · rintro own name ⟨slots, m, hcontains, hmissing⟩
    cases hcontains with
    | refl => exact hrecord own slots rfl
    | part mem inside => exact (h _ mem).attributes own name ⟨slots, m, inside, hmissing⟩
  · rintro f ⟨bs, hcontains, hgarbled⟩
    cases hcontains with
    | refl => exact hbytes bs rfl
    | part mem inside => exact (h _ mem).bytes f ⟨bs, inside, hgarbled⟩

theorem isWhole_null : null.IsWhole F := isWhole_of_parts nofun nofun nofun

/-- A record is whole if it has its attributes, and what they hold is whole. -/
theorem isWhole_record_iff :
    (Value.record own slots).IsWhole F ↔
      (∀ m, F.find? own = some m → ∀ d ∈ m.fields, ∃ s, slot? slots d.name = some s) ∧
        ∀ s ∈ slots, s.value.IsWhole F := by
  constructor
  · intro h
    refine ⟨fun m hm d hd => ?_, fun s hs => ?_⟩
    · cases hslot : slot? slots d.name with
      | some s => exact ⟨s, rfl⟩
      | none =>
          have hdeclares : m.declares d.name = true := Model.declares_iff.2 ⟨d, hd, rfl⟩
          exact absurd ⟨slots, m, .refl _, hm, hdeclares, hslot⟩ (h.attributes own d.name)
    · have hpart : s.value ∈ (Value.record own slots).parts := List.mem_map_of_mem hs
      exact ⟨fun other name hmisses => h.attributes other name (hmisses.part hpart),
        fun f hgarbles => h.bytes f (hgarbles.part hpart)⟩
  · rintro ⟨hslots, hvalues⟩
    constructor
    · rintro other name ⟨ss, m, hcontains, hm, hdeclares, hnone⟩
      rcases hcontains.record_inv with heq | ⟨s, hs, hinside⟩
      · cases heq
        obtain ⟨d, hd, rfl⟩ := Model.declares_iff.1 hdeclares
        obtain ⟨s, hs⟩ := hslots m hm d hd
        cases hnone.symm.trans hs
      · exact (hvalues s hs).attributes other name ⟨ss, m, hinside, hm, hdeclares, hnone⟩
    · rintro f ⟨bs, hcontains, hgarbled⟩
      rcases hcontains.record_inv with heq | ⟨s, hs, hinside⟩
      · cases heq
      · exact (hvalues s hs).bytes f ⟨bs, hinside, hgarbled⟩

end Value

/-! ### Made records -/

/-- What is given for a field, under its key or its name. -/
def FieldDecl.among (d : FieldDecl) (values : List (String × Value)) : Option Value :=
  (Value.lookup values d.wire).or (Value.lookup values d.name)

theorem Value.lookup_filter {key k : String} (h : k ≠ key) :
    lookup (values.filter (·.1 != key)) k = lookup values k := by
  induction values with
  | nil => rfl
  | cons e rest ih =>
      obtain ⟨l, x⟩ := e
      rw [List.filter_cons, lookup]
      split
      · rw [lookup, ih]
      · next hdropped =>
        -- What is dropped is under another key than the one looked for.
        have hl : l = key := by simpa using hdropped
        rw [ih, if_neg fun hlk => h (hlk.symm.trans hl)]

namespace FieldDecl

variable {d : FieldDecl} {ds : List FieldDecl}

/-- A value under another key makes no difference to a field. -/
theorem among_filter {key : String} (hwire : d.wire ≠ key) (hname : d.name ≠ key) :
    d.among (values.filter (·.1 != key)) = d.among values := by
  unfold among
  rw [Value.lookup_filter hwire, Value.lookup_filter hname]

/-- The first field takes what is given for it, or is filled in; the rest goes to the other
fields. -/
theorem slots_cons (d : FieldDecl) (ds : List FieldDecl) (values : List (String × Value)) :
    (∃ key v, (key = d.wire ∨ key = d.name) ∧ d.among values = some v ∧ (key, v) ∈ values ∧
        FieldDecl.slots (d :: ds) values =
          ⟨d.name, v, .given⟩ :: FieldDecl.slots ds (values.filter (·.1 != key))) ∨
      d.among values = none ∧
        FieldDecl.slots (d :: ds) values =
          (d.fallback.map fun v => (⟨d.name, v, .filled⟩ : Slot Value)).toList ++
            FieldDecl.slots ds values := by
  unfold among
  rw [FieldDecl.slots]
  dsimp only
  cases hwire : Value.lookup values d.wire with
  | some v => exact .inl ⟨d.wire, v, .inl rfl, rfl, Value.mem_of_lookup hwire, rfl⟩
  | none =>
      cases hname : Value.lookup values d.name with
      | some v => exact .inl ⟨d.name, v, .inr rfl, rfl, Value.mem_of_lookup hname, rfl⟩
      | none => exact .inr ⟨rfl, rfl⟩

/-- An attribute of a made record has a given value, or the one to fill in. -/
theorem slots_inv {s : Slot Value} (h : s ∈ FieldDecl.slots ds values) :
    ∃ d ∈ ds, s.name = d.name ∧ ((∃ e ∈ values, s.value = e.2) ∨ d.fallback = some s.value) := by
  induction ds generalizing values with
  | nil => cases h
  | cons d rest ih =>
      rcases slots_cons d rest values with ⟨key, v, _, _, hmem, hslots⟩ | ⟨_, hslots⟩
      · rw [hslots] at h
        rcases List.mem_cons.1 h with rfl | h
        · exact ⟨d, .head _, rfl, .inl ⟨(key, v), hmem, rfl⟩⟩
        · obtain ⟨e, he, hname, hvalue⟩ := ih h
          refine ⟨e, .tail d he, hname, hvalue.imp_left ?_⟩
          rintro ⟨entry, hentry, heq⟩
          exact ⟨entry, (List.mem_filter.1 hentry).1, heq⟩
      · rw [hslots, List.mem_append] at h
        rcases h with h | h
        · obtain ⟨v, hv, rfl⟩ := Option.map_eq_some_iff.1 (Option.mem_toList.1 h)
          exact ⟨d, .head _, rfl, .inr hv⟩
        · obtain ⟨e, he, hfound⟩ := ih h
          exact ⟨e, .tail d he, hfound⟩

/-- The attribute of a made record for a field: what is given for the field, or else what there is
to fill in. -/
theorem slot?_slots (names : (ds.map (·.name)).Nodup) (wires : (ds.map (·.wire)).Nodup)
    (apart : ∀ d ∈ ds, ∀ e ∈ ds, d.wire = e.name → d.name = e.name) (hd : d ∈ ds)
    (values : List (String × Value)) :
    Value.slot? (FieldDecl.slots ds values) d.name =
      ((d.among values).map (⟨d.name, ·, .given⟩)).or (d.fallback.map (⟨d.name, ·, .filled⟩)) := by
  induction ds generalizing values with
  | nil => cases hd
  | cons e rest ih =>
      rw [List.map_cons, List.nodup_cons] at names wires
      rcases List.mem_cons.1 hd with rfl | hmem
      · rcases slots_cons d rest values with ⟨key, v, _, hv, _, hslots⟩ | ⟨hnone, hslots⟩
        · rw [hslots, hv]
          exact if_pos rfl
        · rw [hslots, hnone]
          cases d.fallback with
          | some v => exact if_pos rfl
          | none =>
              show Value.slot? (FieldDecl.slots rest values) d.name = none
              rw [Option.eq_none_iff_forall_ne_some]
              intro s hs
              obtain ⟨hs, hname⟩ := Value.mem_of_slot? hs
              obtain ⟨f, hf, hother, _⟩ := slots_inv hs
              exact names.1 (List.mem_map.2 ⟨f, hf, hother.symm.trans hname⟩)
      · have hrest := ih names.2 wires.2
          (fun f hf g hg => apart f (.tail e hf) g (.tail e hg)) hmem
        have hname : d.name ≠ e.name := fun h => names.1 (h ▸ List.mem_map_of_mem hmem)
        have hwire : d.wire ≠ e.wire := fun h => wires.1 (h ▸ List.mem_map_of_mem hmem)
        have hcross : d.wire ≠ e.name := fun h => hname (apart d hd e (.head _) h)
        have hcross' : d.name ≠ e.wire := fun h => hname (apart e (.head _) d hd h.symm).symm
        rcases slots_cons e rest values with ⟨key, v, hkey, _, _, hslots⟩ | ⟨_, hslots⟩
        · -- The value that goes to the other field is under no key that this field looks at.
          have hamong : d.among (values.filter (·.1 != key)) = d.among values := by
            rcases hkey with rfl | rfl
            · exact among_filter hwire hcross'
            · exact among_filter hcross hname
          rw [hslots, Value.slot?, if_neg hname.symm, hrest, hamong]
        · rw [hslots]
          cases e.fallback with
          | none => exact hrest values
          | some v =>
              show Value.slot? (⟨e.name, v, .filled⟩ :: FieldDecl.slots rest values) d.name = _
              rw [Value.slot?, if_neg hname.symm, hrest]

end FieldDecl

namespace Model

theorem Regular.slot?_instanceOf (hm : m.Regular F) {d : FieldDecl} (hd : d ∈ m.fields)
    (values : List (String × Value)) :
    Value.slot? (FieldDecl.slots m.fields values) d.name =
      ((d.among values).map (⟨d.name, ·, .given⟩)).or (d.fallback.map (⟨d.name, ·, .filled⟩)) :=
  FieldDecl.slot?_slots hm.names hm.wires hm.apart hd values

/-- A record that is made of whole values is whole exactly if a value is given for every field that
must be there. -/
theorem isWhole_instanceOf (hF : F.Regular) (hm : F.find? ref = some m)
    (hvalues : ∀ e ∈ values, e.2.IsWhole F) :
    (m.instanceOf values).IsWhole F ↔
      ∀ d ∈ m.fields, d.fallback = none → (d.among values).isSome = true := by
  obtain ⟨hregular, rfl⟩ := hF.model hm
  rw [instanceOf, Value.isWhole_record_iff]
  constructor
  · rintro ⟨hslots, _⟩ d hd hnone
    obtain ⟨s, hs⟩ := hslots m hm d hd
    rw [hregular.slot?_instanceOf hd, hnone, Option.map_none, Option.or_none] at hs
    obtain ⟨v, hv, _⟩ := Option.map_eq_some_iff.1 hs
    rw [hv]
    rfl
  · intro hgiven
    refine ⟨fun n hn d hd => ?_, fun s hs => ?_⟩
    · cases hm.symm.trans hn
      rw [hregular.slot?_instanceOf hd]
      cases hamong : d.among values with
      | some v => exact ⟨_, rfl⟩
      | none =>
          cases hfallback : d.fallback with
          | some v => exact ⟨_, rfl⟩
          | none =>
              have := hgiven d hd hfallback
              rw [hamong] at this
              cases this
    · obtain ⟨d, hd, _, ⟨e, he, hvalue⟩ | hfallback⟩ := FieldDecl.slots_inv hs
      · exact hvalue ▸ hvalues e he
      · rw [(hregular.fields d hd).eq_null_of_fallback hfallback]
        exact Value.isWhole_null

end Model

/-! ### Copies -/

/-- Attributes with one of them put in the place of the one of its name, or after the others. -/
def Slot.put (slots : List (Slot Value)) (s : Slot Value) : List (Slot Value) :=
  if slots.any (·.name == s.name) then slots.map fun t => if t.name == s.name then s else t
  else slots ++ [s]

namespace Slot

variable {s t : Slot Value}

theorem mem_put (h : t ∈ put slots s) : t = s ∨ t ∈ slots := by
  unfold put at h
  split at h
  · obtain ⟨r, hr, rfl⟩ := List.mem_map.1 h
    split
    · exact .inl rfl
    · exact .inr hr
  · exact (List.mem_append.1 h).symm.imp_left List.mem_singleton.1

/-- Every name stays in use. -/
theorem exists_put (h : ∃ t ∈ slots, t.name = name) : ∃ t ∈ put slots s, t.name = name := by
  obtain ⟨t, ht, hname⟩ := h
  unfold put
  split
  · refine ⟨_, List.mem_map_of_mem ht, ?_⟩
    split
    · next heq => exact (beq_iff_eq.1 heq).symm.trans hname
    · exact hname
  · exact ⟨t, List.mem_append_left _ ht, hname⟩

end Slot

theorem Value.isWhole_put {s : Slot Value} (h : (Value.record own slots).IsWhole F)
    (hs : s.value.IsWhole F) : (Value.record own (Slot.put slots s)).IsWhole F := by
  rw [isWhole_record_iff] at h ⊢
  refine ⟨fun m hm d hd => ?_, fun t ht => ?_⟩
  · obtain ⟨t, ht⟩ := h.1 m hm d hd
    exact exists_slot? (Slot.exists_put ⟨t, mem_of_slot? ht⟩)
  · rcases Slot.mem_put ht with rfl | ht
    · exact hs
    · exact h.2 t ht

/-- A copy of a whole record with whole values is whole. -/
theorem Value.isWhole_withAttributes (h : v.IsWhole F) (hvalues : ∀ e ∈ values, e.2.IsWhole F) :
    (v.withAttributes F values).IsWhole F := by
  cases v with
  | record own slots =>
      rw [withAttributes]
      dsimp only
      induction values generalizing slots with
      | nil => exact h
      | cons e rest ih =>
          rw [List.foldl_cons]
          exact ih (fun e' he' => hvalues e' (.tail e he')) _
            (isWhole_put (s := ⟨e.1, e.2, _⟩) h (hvalues e (.head _)))
  | _ => exact h

/-! ### Built values -/

/-- The values that are built up with all that is needed: from values without attributes, by making
records of which all fields that must be there are given, and by copying records. -/
inductive Value.IsBuilt (F : Family) : Value → Prop
  | plain {v : Value} (noRecord : ∀ own slots, v ≠ .record own slots)
      (noBytes : ∀ bs, v ≠ .bytes bs) (parts : ∀ p ∈ v.parts, IsBuilt F p) : IsBuilt F v
  | made {ref : ModelRef} {m : Model} {values : List (String × Value)}
      (model : F.find? ref = some m) (built : ∀ e ∈ values, IsBuilt F e.2)
      (needed : ∀ d ∈ m.fields, d.fallback = none → (d.among values).isSome = true) :
      IsBuilt F (m.instanceOf values)
  | copied {v : Value} {values : List (String × Value)} (original : IsBuilt F v)
      (built : ∀ e ∈ values, IsBuilt F e.2) : IsBuilt F (v.withAttributes F values)

theorem Value.IsBuilt.isWhole (hF : F.Regular) (h : v.IsBuilt F) : v.IsWhole F := by
  induction h with
  | plain noRecord noBytes _ ih => exact isWhole_of_parts noRecord noBytes ih
  | made model _ needed ih => exact (Model.isWhole_instanceOf hF model ih).2 needed
  | copied _ _ ihOriginal ihValues => exact isWhole_withAttributes ihOriginal ihValues

end EditorProtocol
