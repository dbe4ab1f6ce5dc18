import Mathlib.Data.List.Perm.Subperm
import EditorProtocol.Proofs.Codec.Loudness
import EditorProtocol.Proofs.Codec.Writing

/-!
Models that extend another one. A model that keeps the fields of another one and adds more to them
takes fewer values, and of a value that it takes the other one takes the part that it has fields
for: on the way in, where it gets the same attributes, and on the way out, where it gets the same
entries. Neither the additional fields nor validation of the whole makes a difference to the part.
-/

namespace EditorProtocol

variable {F : Family} {exact byName : Bool} {v w x : Value}

/-! ### Parts of lists -/

/-- What a duplicate-free list has of one of its sublists is the sublist. -/
theorem filter_eq_of_sublist {α : Type} {p : α → Bool} {part whole : List α}
    (h : part.Sublist whole) (nodup : whole.Nodup) (hp : ∀ a ∈ whole, p a = true ↔ a ∈ part) :
    whole.filter p = part := by
  have hsublist : part.Sublist (whole.filter p) := by
    rw [← List.filter_eq_self.2 fun a ha => (hp a (h.subset ha)).2 ha]
    exact h.filter p
  have hsubset : whole.filter p ⊆ part := fun a ha => by
    obtain ⟨hmem, hpa⟩ := List.mem_filter.1 ha
    exact (hp a hmem).1 hpa
  exact (hsublist.eq_of_length_le (List.subperm_of_subset (nodup.filter p) hsubset).length_le).symm

/-- A list with elements of another one, in the order of the other one, is a sublist of it. -/
theorem sublist_of_map {α β : Type} {f : α → β} {part whole : List α}
    (h : (part.map f).Sublist (whole.map f)) (nodup : (whole.map f).Nodup)
    (hpart : ∀ a ∈ part, a ∈ whole) : part.Sublist whole := by
  obtain ⟨kept, hkept, hmap⟩ := List.sublist_map_iff.1 h
  have hinj := List.inj_on_of_nodup_map nodup
  suffices part = kept from this ▸ hkept
  have hsubset := hkept.subset
  clear h hkept
  induction part generalizing kept with
  | nil => exact (List.map_eq_nil_iff.1 hmap.symm).symm
  | cons a rest ih =>
      obtain ⟨b, others, rfl, hb, hothers⟩ := List.map_eq_cons_iff.1 hmap.symm
      have hab : a = b :=
        hinj (hpart a List.mem_cons_self) (hsubset List.mem_cons_self) hb.symm
      rw [hab, ih (fun c hc => hpart c (List.mem_cons_of_mem a hc)) others hothers.symm
        fun c hc => hsubset (List.mem_cons_of_mem b hc)]

/-! ### Fields -/

namespace FieldDecl

/-- What is taken for a field, and whether anything is, depends on what is given for it. -/
theorem fitted_congr {d : FieldDecl} {byName' : Bool} {w' : Value}
    (h : (d.given? byName w).map (·.2) = (d.given? byName' w').map (·.2)) :
    (d.IsTaken F byName w ↔ d.IsTaken F byName' w') ∧
      d.fitted F byName w = d.fitted F byName' w' := by
  unfold IsTaken fitted
  cases hgiven : d.given? byName w with
  | none =>
      rw [hgiven, Option.map_none, eq_comm, Option.map_eq_none_iff] at h
      rw [h]
      exact ⟨.rfl, rfl⟩
  | some given =>
      rw [hgiven, Option.map_some, eq_comm, Option.map_eq_some_iff] at h
      obtain ⟨given', hgiven', heq⟩ := h
      obtain ⟨key, u⟩ := given
      obtain ⟨key', u'⟩ := given'
      cases heq
      rw [hgiven']
      exact ⟨.rfl, rfl⟩

end FieldDecl

/-- A field with a shape never refuses a value in silence. -/
theorem FieldDecl.loud {d : FieldDecl} (h : d.field.isOk = true) (v : Value) :
    d.type.fit F [] v ≠ .error (.violations []) := by
  rcases shape_type h with hshape | ⟨hshape, _⟩
  · exact fit_loud d.type hshape v
  · exact fit_loud d.type hshape v

/-- No rule is broken by fields with shapes exactly if every field is taken. -/
theorem fitFields_ok_iff {ds : List FieldDecl} {slots : List (Slot Value)}
    (hshaped : ∀ d ∈ ds, d.field.isOk = true) :
    fitFields F byName w ds = .ok ([], slots) ↔
      (∀ d ∈ ds, d.IsTaken F byName w) ∧ slots = ds.map (·.fitted F byName w) := by
  constructor
  · intro h
    induction ds generalizing slots with
    | nil =>
        rw [fitFields] at h
        cases h
        exact ⟨List.forall_mem_nil _, rfl⟩
    | cons d rest ih =>
        obtain ⟨others, hothers, hd⟩ := fitFields_cons_inv h
        obtain ⟨htaken, rfl⟩ := ih (fun e he => hshaped e (List.mem_cons_of_mem d he)) hothers
        rcases hd with ⟨hd, rfl⟩ | ⟨_, u, hu⟩
        · exact ⟨List.forall_mem_cons.2 ⟨hd, htaken⟩, rfl⟩
        · exact absurd hu (FieldDecl.loud (hshaped d List.mem_cons_self) u)
  · rintro ⟨htaken, rfl⟩
    exact fitFields_ok htaken

/-! ### Validation -/

/-- A model extends another one: it has the fields of the other one in their order, and keeps the
order of a start and an end if the other one does. -/
structure Model.Extends (larger smaller : Model) : Prop where
  fields : smaller.fields.Sublist larger.fields
  ordered : smaller.ordered = true → larger.ordered = true

section Extends

variable {larger smaller : Model} {ref ref' : ModelRef} {slots : List (Slot Value)}

namespace Model.Extends

/-- Of the fields of the larger model, the smaller one declares those that it has itself. -/
theorem declares_iff (h : larger.Extends smaller) (hlarger : larger.Keyed) {d : FieldDecl}
    (hd : d ∈ larger.fields) : smaller.declares d.name = true ↔ d ∈ smaller.fields := by
  rw [Model.declares_iff]
  constructor
  · rintro ⟨e, he, hname⟩
    have heq := List.inj_on_of_nodup_map hlarger.names (h.fields.subset he) hd hname
    exact heq ▸ he
  · exact fun hmem => ⟨d, hmem, rfl⟩

/-- What the smaller model declares of the attributes of the larger one. -/
theorem filter_fitted (h : larger.Extends smaller) (hlarger : larger.Keyed) :
    (larger.fields.map (·.fitted F byName w)).filter (smaller.declares ·.name) =
      smaller.fields.map (·.fitted F byName w) := by
  rw [List.filter_map]
  congr 1
  refine filter_eq_of_sublist h.fields hlarger.names.of_map fun d hd => ?_
  rw [Function.comp_apply, FieldDecl.fitted_name]
  exact h.declares_iff hlarger hd

end Model.Extends

/-- The order of a start and an end does not depend on where they come from. -/
theorem checkOrder_congr {w' : Value} {slots' : List (Slot Value)}
    (hstart : Value.attribute? slots' "start" = Value.attribute? slots "start")
    (hstop : Value.attribute? slots' "end" = Value.attribute? slots "end")
    (h : checkOrder w slots = .ok ()) : checkOrder w' slots' = .ok () := by
  unfold checkOrder at h ⊢
  rw [hstart, hstop]
  split at h
  · split at h
    · cases h
    · cases h
    · split at h <;> cases h
    · rfl
  · rfl

/-- The attribute of a field that is taken. -/
theorem attribute?_fitted {ds : List FieldDecl} (nodup : (ds.map (·.name)).Nodup) {d : FieldDecl}
    (hd : d ∈ ds) :
    Value.attribute? (ds.map (·.fitted F byName w)) d.name = some (d.fitted F byName w).value := by
  unfold Value.attribute?
  rw [Value.slot?_map (fun e => FieldDecl.fitted_name e) nodup hd]
  rfl

/-- Where the smaller model is given the same as the larger one, it takes what that takes. -/
theorem Model.Extends.validate (h : larger.Extends smaller) (hlarger : larger.Keyed)
    (hsmaller : smaller.Sound F) {w' : Value} (hw : w.isObject = true) (hw' : w'.isObject = true)
    (hgiven : ∀ d ∈ smaller.fields,
      (d.given? larger.byName w).map (·.2) = (d.given? smaller.byName w').map (·.2))
    (hv : larger.validate F w = .ok v) :
    ∃ slots, v = .record larger.ref slots ∧ smaller.validate F w' =
      .ok (.record smaller.ref (slots.filter (smaller.declares ·.name))) := by
  rw [larger.validate_eq hw] at hv
  obtain ⟨⟨vs, slots⟩, hfields, hcomplete⟩ := bind_eq_ok.1 hv
  obtain ⟨rfl, rfl, horder⟩ := complete_inv hcomplete
  obtain ⟨htaken, rfl⟩ := (fitFields_ok_iff hlarger.shaped).1 hfields
  have hfitted : smaller.fields.map (·.fitted F smaller.byName w') =
      smaller.fields.map (·.fitted F larger.byName w) :=
    List.map_congr_left fun d hd => (FieldDecl.fitted_congr (hgiven d hd)).2.symm
  refine ⟨_, rfl, ?_⟩
  rw [smaller.validate_eq hw', h.filter_fitted hlarger, fitFields_ok fun d hd =>
    (FieldDecl.fitted_congr (hgiven d hd)).1.1 (htaken d (h.fields.subset hd)), ok_bind, hfitted]
  refine complete_ok fun hordered => ?_
  have hplace : ∀ {name}, smaller.Needs name F.isPositional →
      Value.attribute? (smaller.fields.map (·.fitted F larger.byName w)) name =
        Value.attribute? (larger.fields.map (·.fitted F larger.byName w)) name := by
    rintro name ⟨d, hd, rfl, _⟩
    rw [attribute?_fitted hsmaller.keyed.names hd,
      attribute?_fitted hlarger.names (h.fields.subset hd)]
  exact checkOrder_congr (hplace (hsmaller.start hordered)) (hplace (hsmaller.stop hordered))
    (horder (h.ordered hordered))

/-! ### Decoding -/

/-- Of what is decoded for the larger model, the smaller one takes its own attributes. -/
theorem decode_extension (hF : F.Sound) (hlarger : F.find? ref = some larger)
    (hsmaller : F.find? ref' = some smaller) (h : larger.Extends smaller)
    (hv : (decode F exact w (.record ref)).outcome = .ok v) :
    ∃ slots, v = .record ref slots ∧ (decode F exact w (.record ref')).outcome =
      .ok (.record ref' (slots.filter (smaller.declares ·.name))) := by
  obtain ⟨hlargerSound, rfl⟩ := hF.model hlarger
  obtain ⟨hsmallerSound, rfl⟩ := hF.model hsmaller
  have hkeyed := hlargerSound.keyed
  have hkeyed' := hsmallerSound.keyed
  have hobject := isObject_of_decode hv
  rw [decode_record hkeyed hlarger hobject] at hv
  obtain ⟨values, hvalues, hv⟩ := bind_eq_ok.1 hv
  rw [decodeFields_ok_iff, Model.entries_decoded hkeyed, List.forall_mem_map] at hvalues
  obtain ⟨hdecoded, rfl⟩ := hvalues
  have hmade := Model.assemble_ok_iff.1 hv
  have hgiven : ∀ d ∈ smaller.fields,
      (d.given? larger.byName (.object (larger.entries (Model.decoded F exact w)))).map (·.2) =
        (d.given? smaller.byName (.object (smaller.entries (Model.decoded F exact w)))).map
          (·.2) := by
    intro d hd
    rw [hkeyed.byName, hkeyed'.byName]
    obtain ⟨key, hkey⟩ :=
      Model.given?_entries (Model.decoded F exact w) hkeyed (h.fields.subset hd)
    obtain ⟨key', hkey'⟩ := Model.given?_entries (Model.decoded F exact w) hkeyed' hd
    rw [hkey, hkey', Option.map_map, Option.map_map]
    rfl
  obtain ⟨slots, rfl, hvalid⟩ := h.validate hkeyed hsmallerSound rfl rfl hgiven hmade
  refine ⟨slots, rfl, ?_⟩
  have hvalues : (decodeFields F exact w smaller.ref
      (smaller.fields.map FieldDecl.asField)).outcome =
        .ok (smaller.entries (Model.decoded F exact w)) := by
    rw [decodeFields_ok_iff, Model.entries_decoded hkeyed', List.forall_mem_map]
    exact ⟨fun d hd => hdecoded d (h.fields.subset hd), rfl⟩
  rw [decode_record hkeyed' hsmaller hobject, hvalues, ok_bind, Model.assemble_ok_iff]
  exact hvalid

/-! ### Encoding -/

/-- What is written for a field does not depend on the fields after it. -/
theorem encodeFields_cons_step {own : ModelRef} {whole : Value} {f : Field} {rest : List Field}
    {entries : List (String × Value)}
    (h : encodeFields F ref own slots whole (f :: rest) = .ok entries) :
    ∃ item : Option Value, ∃ others, encodeFields F ref own slots whole rest = .ok others ∧
      entries = (item.map (f.wire, ·)).toList ++ others ∧
        ∀ ref' rest' others', encodeFields F ref' own slots whole rest' = .ok others' →
          encodeFields F ref' own slots whole (f :: rest') =
            .ok ((item.map (f.wire, ·)).toList ++ others') := by
  rw [encodeFields] at h
  split at h
  · next hleft =>
    refine ⟨none, entries, h, rfl, fun ref' rest' others' h' => ?_⟩
    rw [encodeFields, if_pos hleft]
    exact h'
  next hkept =>
  split at h
  · cases h
  next hdeclared =>
  split at h
  · cases h
  next slot hslot =>
  -- From here on the field is looked at in the same way, whatever comes after it.
  have hstep : ∀ ref' rest', encodeFields F ref' own slots whole (f :: rest') =
      if slot.value.isNull then
        if f.nullable then do
          let entries ← encodeFields F ref' own slots whole rest'
          return (f.wire, .null) :: entries
        else if f.optional then encodeFields F ref' own slots whole rest'
        else underSegment (.key f.wire) (refuse f.shape slot.value .unexpectedNull)
      else do
        let w ← underSegment (.key f.wire) (encode F slot.value f.shape)
        let entries ← encodeFields F ref' own slots whole rest'
        return (f.wire, w) :: entries := by
    intro ref' rest'
    rw [encodeFields, if_neg hkept, if_neg hdeclared]
    split
    · next hnone => cases hslot.symm.trans hnone
    · next found hfound =>
      cases hslot.symm.trans hfound
      rfl
  split at h
  · next hnull =>
    split at h
    · next hnullable =>
      obtain ⟨others, hrest, h⟩ := bind_eq_ok.1 h
      cases h
      refine ⟨some .null, others, hrest, rfl, fun ref' rest' others' h' => ?_⟩
      rw [hstep, if_pos hnull, if_pos hnullable, h']
      rfl
    next hnullable =>
    split at h
    · next hoptional =>
      refine ⟨none, entries, h, rfl, fun ref' rest' others' h' => ?_⟩
      rw [hstep, if_pos hnull, if_neg hnullable, if_pos hoptional]
      exact h'
    · cases h
  · next hnull =>
    obtain ⟨u, hu, h⟩ := bind_eq_ok.1 h
    obtain ⟨others, hrest, h⟩ := bind_eq_ok.1 h
    cases h
    refine ⟨some u, others, hrest, rfl, fun ref' rest' others' h' => ?_⟩
    rw [hstep, if_neg hnull, hu, ok_bind, h']
    rfl

/-- The keys of what is written are those of the fields. -/
theorem keys_of_encodeFields {own : ModelRef} {whole : Value} {fields : List Field}
    {entries : List (String × Value)}
    (h : encodeFields F ref own slots whole fields = .ok entries) :
    ∀ e ∈ entries, e.1 ∈ fields.map (·.wire) := by
  induction fields generalizing entries with
  | nil =>
      rw [encodeFields] at h
      cases h
      exact List.forall_mem_nil _
  | cons f rest ih =>
      obtain ⟨item, others, hrest, rfl, _⟩ := encodeFields_cons_step h
      intro e he
      rcases List.mem_append.1 he with he | he
      · cases item with
        | none => cases he
        | some u =>
            cases List.mem_singleton.1 he
            exact List.mem_cons_self
      · exact List.mem_cons_of_mem _ (ih hrest e he)

/-- Some of the fields are written as they are among all of them. -/
theorem encodeFields_sublist {own : ModelRef} {whole : Value} {part fields : List Field}
    {entries : List (String × Value)} (hpart : part.Sublist fields)
    (nodup : (fields.map (·.wire)).Nodup)
    (h : encodeFields F ref own slots whole fields = .ok entries) :
    encodeFields F ref' own slots whole part =
      .ok (entries.filter fun e => (part.map (·.wire)).contains e.1) := by
  induction hpart generalizing entries with
  | slnil =>
      rw [encodeFields] at h ⊢
      cases h
      rfl
  | @cons part rest f hrest ih =>
      rw [List.map_cons, List.nodup_cons] at nodup
      obtain ⟨item, others, hothers, rfl, _⟩ := encodeFields_cons_step h
      have hnot : f.wire ∉ part.map (·.wire) := fun hmem =>
        nodup.1 ((hrest.map _).subset hmem)
      rw [ih nodup.2 hothers, List.filter_append]
      cases item with
      | none => rfl
      | some u =>
          rw [Option.map_some, Option.toList_some, List.filter_cons_of_neg (by simpa using hnot)]
          rfl
  | @cons_cons part rest f hrest ih =>
      rw [List.map_cons, List.nodup_cons] at nodup
      obtain ⟨item, others, hothers, rfl, hstep⟩ := encodeFields_cons_step h
      rw [hstep ref' part _ (ih nodup.2 hothers), List.filter_append]
      have hown : ((item.map (f.wire, ·)).toList).filter
          (fun e => ((f :: part).map (·.wire)).contains e.1) = (item.map (f.wire, ·)).toList := by
        cases item with
        | none => rfl
        | some u => simp
      -- The keys of the other entries are not the one of this field.
      have hothers' : others.filter (fun e => ((f :: part).map (·.wire)).contains e.1) =
          others.filter fun e => (part.map (·.wire)).contains e.1 := by
        refine List.filter_congr fun e he => ?_
        have hne : e.1 ≠ f.wire := fun heq =>
          nodup.1 (heq ▸ keys_of_encodeFields hothers e he)
        rw [List.map_cons, List.contains_cons, beq_false_of_ne hne, Bool.false_or]
      rw [hown, hothers']

theorem lookup_filter {entries : List (String × Value)} {p : String → Bool} {key : String}
    (hp : p key = true) :
    Value.lookup (entries.filter fun e => p e.1) key = Value.lookup entries key := by
  induction entries with
  | nil => rfl
  | cons e rest ih =>
      obtain ⟨k, u⟩ := e
      rw [List.filter_cons, Value.lookup]
      split
      · rw [Value.lookup, ih]
      · next hdropped =>
        rw [ih, if_neg]
        rintro rfl
        exact hdropped hp

/-- An object with no keys but those of the fields gives a field what it has under its key. -/
theorem given?_of_keys {m : Model} (hm : m.Keyed) {entries : List (String × Value)}
    (hkeys : ∀ e ∈ entries, e.1 ∈ m.fields.map (·.wire)) {d : FieldDecl} (hd : d ∈ m.fields) :
    (d.given? byName (.object entries)).map (·.2) = Value.lookup entries d.wire := by
  unfold FieldDecl.given?
  cases hwire : (Value.object entries).at? d.wire with
  | some u => exact hwire.symm
  | none =>
      have hname : (Value.object entries).at? d.name = none := by
        cases hname : (Value.object entries).at? d.name with
        | none => rfl
        | some u =>
            -- A key that is the name of a field is the key of that field.
            obtain ⟨e, he, heq⟩ := List.mem_map.1 (hkeys _ (Value.mem_of_lookup hname))
            cases List.inj_on_of_nodup_map hm.names he hd (hm.apart e he d hd heq)
            rw [heq] at hwire
            cases hwire.symm.trans hname
      rw [hname, ite_self]
      exact hwire.symm

/-- Of what is written for a record as one of the larger model, the smaller one writes its own
entries. -/
theorem encode_extension (hF : F.Sound) (hlarger : F.find? ref = some larger)
    (hsmaller : F.find? ref' = some smaller) (h : larger.Extends smaller)
    (hx : encode F v (.record ref) = .ok x) :
    ∃ entries, x = .object entries ∧ encode F v (.record ref') =
      .ok (.object (entries.filter fun e => (smaller.fields.map (·.wire)).contains e.1)) := by
  obtain ⟨hlargerSound, rfl⟩ := hF.model hlarger
  obtain ⟨hsmallerSound, rfl⟩ := hF.model hsmaller
  have hkeyed := hlargerSound.keyed
  have hkeyed' := hsmallerSound.keyed
  obtain ⟨own, slots, entries, u, rfl, rfl, hentries, hvalid⟩ :=
    encode_record_inv hkeyed hlarger hx
  have hpart : encodeFields F smaller.ref own slots (.record own slots)
      (smaller.fields.map FieldDecl.asField) = .ok (entries.filter fun e =>
        ((smaller.fields.map FieldDecl.asField).map (·.wire)).contains e.1) :=
    encodeFields_sublist (h.fields.map FieldDecl.asField) hkeyed.fieldWires hentries
  have hkeys := keys_of_encodeFields hentries
  have hkeys' := keys_of_encodeFields hpart
  rw [hkeyed.wires_fields] at hkeys
  rw [hkeyed'.wires_fields] at hpart hkeys'
  have hgiven : ∀ d ∈ smaller.fields,
      (d.given? larger.byName (.object entries)).map (·.2) =
        (d.given? smaller.byName (.object (entries.filter fun e =>
          (smaller.fields.map (·.wire)).contains e.1))).map (·.2) := by
    intro d hd
    rw [given?_of_keys hkeyed hkeys (h.fields.subset hd), given?_of_keys hkeyed' hkeys' hd,
      lookup_filter (p := (smaller.fields.map (·.wire)).contains)
        (List.contains_iff_mem.2 (List.mem_map_of_mem hd))]
  obtain ⟨_, _, hvalid'⟩ := h.validate hkeyed hsmallerSound rfl rfl hgiven hvalid
  refine ⟨entries, rfl, ?_⟩
  rw [encode_record hkeyed' hsmaller, hpart, ok_bind]
  unfold Model.seal
  rw [hvalid']

end Extends

end EditorProtocol
