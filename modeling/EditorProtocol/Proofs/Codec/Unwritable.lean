import EditorProtocol.Proofs.Codec.Attribution
import EditorProtocol.Proofs.Codec.Wholeness
import EditorProtocol.Proofs.Codec.Writing

/-!
What the faults of encoding are due to. A value of any kind is written or refused under any shape,
or else there is a part of it with an integer that is too large for a float, with bytes that are no
text in a place for anything, or with a record that its own model declares an attribute for that was
never set. The rules of a model, arrays and unions add no faults of their own.
-/

namespace EditorProtocol

variable {F : Family} {own ref : ModelRef} {m : Model} {v : Value} {s : Shape} {f : Fault}

/-! ### Causes -/

/-- A fault that encoding runs into at a part of a value. -/
inductive Unwritable (F : Family) : Value → Shape → Fault → Prop
  | overflow {v : Value} {p : Primitive} {n : Int} (kind : p.kind = .float)
      (integer : v.unwrapped.integer? = some n) (large : Double.ofInt? n = none) :
      Unwritable F v (.primitive p) .overflow
  | bytes {own : ModelRef} {slots : List (Slot Value)} {f : Fault}
      (garbled : (Value.record own slots).Garbles f) : Unwritable F (.record own slots) .any f
  | unset {own ref : ModelRef} {slots : List (Slot Value)} {m n : Model} {d : FieldDecl}
      (model : F.find? ref = some m) (mem : d ∈ m.fields) (needed : d.asField.optional = false)
      (ownModel : F.find? own = some n) (declared : n.declares d.name = true)
      (missing : Value.slot? slots d.name = none) :
      Unwritable F (.record own slots) (.record ref) (.noAttribute own.name d.name)
  | nullable {v : Value} {inner : Shape} {f : Fault} (inside : Unwritable F v inner f) :
      Unwritable F v (.nullable inner) f
  | item {v x : Value} {xs : List Value} {element : Shape} {f : Fault}
      (sequence : v = .list xs ∨ v = .tuple xs) (mem : x ∈ xs)
      (inside : Unwritable F x element f) : Unwritable F v (.sequence element) f
  | alternative {v : Value} {alternatives : List Shape} {s : Shape} {f : Fault}
      (listed : s ∈ alternatives) (inside : Unwritable F v s f) :
      Unwritable F v (.union alternatives) f
  | field {own ref : ModelRef} {slots : List (Slot Value)} {m : Model} {d : FieldDecl}
      {slot : Slot Value} {f : Fault} (model : F.find? ref = some m) (mem : d ∈ m.fields)
      (found : Value.slot? slots d.name = some slot)
      (inside : Unwritable F slot.value d.asField.shape f) :
      Unwritable F (.record own slots) (.record ref) f

/-! ### Parts -/

section Parts

variable {P : Fault → Prop} {slots : List (Slot Value)}

theorem encodeItems_attributed {element : Shape} {xs : List Value}
    (h : ∀ x ∈ xs, Attributed P (encode F x element)) (i : Nat) :
    Attributed P (encodeItems F i xs element) := by
  induction xs generalizing i with
  | nil =>
      rw [encodeItems]
      exact attributed_ok []
  | cons x rest ih =>
      rw [encodeItems]
      refine ((h x (.head _)).underSegment (.index i)).bind fun w _ => ?_
      exact (ih (fun y hy => h y (.tail x hy)) (i + 1)).bind fun ws _ => attributed_ok (w :: ws)

theorem encodeFields_attributed {whole : Value} {fields : List Field}
    (hunset : ∀ f ∈ fields, f.optional = false → (F.find? own).any (·.declares f.name) = true →
      Value.slot? slots f.name = none → P (.noAttribute own.name f.name))
    (hset : ∀ f ∈ fields, ∀ slot, Value.slot? slots f.name = some slot →
      Attributed P (encode F slot.value f.shape)) :
    Attributed P (encodeFields F ref own slots whole fields) := by
  induction fields with
  | nil =>
      rw [encodeFields]
      exact attributed_ok []
  | cons f rest ih =>
      have hrest := ih (fun g hg => hunset g (.tail f hg)) fun g hg => hset g (.tail f hg)
      rw [encodeFields]
      split
      · exact hrest
      · next hleft =>
        split
        · exact attributed_refuse _ _ _
        · next hdeclared =>
          rw [Bool.not_eq_true', Bool.not_eq_false] at hdeclared
          split
          · next hnone =>
            -- An attribute that was never set was not given, so the field is not optional.
            have hneeded : f.optional = false := by
              simpa [Value.isGiven, hnone] using hleft
            exact .inr ⟨_, rfl, hunset f (.head _) hneeded hdeclared hnone⟩
          · next slot hslot =>
            split
            · split
              · exact hrest.bind fun ws _ => attributed_ok _
              · split
                · exact hrest
                · exact (attributed_refuse _ _ _).underSegment _
            · have hvalue := (hset f (.head _) slot hslot).underSegment (.key f.wire)
              exact hvalue.bind fun w _ => hrest.bind fun ws _ => attributed_ok _

theorem encode_union_attributed {alternatives : List Shape}
    (h : ∀ s ∈ alternatives, Attributed P (encode F v s)) :
    Attributed P (encode F v (.union alternatives)) := by
  rcases encode_union_cases F v alternatives with
    ⟨_, hrefused⟩ | ⟨before, s, after, rfl, _, _, hunion⟩
  · exact hrefused.decided.attributed
  · rw [hunion]
    exact h s (List.mem_append_right before (.head _))

/-- A record whose fields are written keeps the rules of its model, or is refused. -/
theorem Model.seal_decided (hF : F.Sound) (hm : F.find? ref = some m) {whole : Value}
    {fields : List Field} {entries : List (String × Value)}
    (h : encodeFields F ref own slots whole fields = .ok entries) :
    Decided (m.seal F v entries) := by
  have hw : (Value.object entries).IsWire := .object fun e he => by
    obtain ⟨f, _, hwrote⟩ := exists_wrote h e he
    rcases hwrote.item_inv with hnull | ⟨u, hu⟩
    · exact hnull ▸ .null
    · exact encode_wire hF hu
  have hvalid := m.validate_sound hF hm hw rfl
  unfold Model.seal
  generalize m.validate F (.object entries) = r at hvalid
  cases hvalid with
  | ok u => exact decided_ok _
  | refused vs => exact decided_refuse _ _ _

end Parts

/-! ### Whole values -/

/-- Encoding gives a wire value or a mismatch, or a fault that a part of the value has a cause
for. -/
theorem encode_attributed (hF : F.Sound) (v : Value) (s : Shape) :
    Attributed (Unwritable F v s) (encode F v s) := by
  -- The value gets smaller at items and attributes; at null and in unions only the shape does.
  cases s with
  | primitive p =>
      rw [encode]
      refine (p.accept_attributed v.unwrapped).imp ?_
      rintro _ ⟨rfl, kind, n, integer, large⟩
      exact .overflow kind integer large
  | enumeration e =>
      rw [encode]
      exact (e.accept_decided _).attributed
  | nullable inner =>
      rw [encode]
      split
      · exact attributed_ok _
      · exact (encode_attributed hF v inner).imp fun _ => .nullable
  | any =>
      cases v with
      | record own slots =>
          rw [encode]
          cases hdump : dump F .any (.record own slots) with
          | ok w => exact attributed_ok w
          | error f => exact .inr ⟨f, rfl, .bytes (dump_garbled _ _ hdump)⟩
      | _ =>
          rw [encode]
          · exact ((Value.checkJson_decided _).bind fun _ _ => decided_ok _).attributed
          · rintro own slots ⟨⟩
  | sequence element =>
      cases v with
      | list xs =>
          rw [encode]
          refine (encodeItems_attributed (fun x hx => ?_) 0).bind fun ws _ => attributed_ok _
          exact (encode_attributed hF x element).imp fun _ => .item (.inl rfl) hx
      | tuple xs =>
          rw [encode]
          refine (encodeItems_attributed (fun x hx => ?_) 0).bind fun ws _ => attributed_ok _
          exact (encode_attributed hF x element).imp fun _ => .item (.inr rfl) hx
      | _ =>
          rw [encode]
          · exact attributed_refuse _ _ _
          · rintro xs ⟨⟩
          · rintro xs ⟨⟩
  | union alternatives =>
      exact encode_union_attributed fun t ht =>
        (encode_attributed hF v t).imp fun _ => .alternative ht
  | record ref =>
      cases v with
      | record own slots =>
          cases hfind : F.find? ref with
          | none =>
              rw [encode, hfind]
              exact attributed_ok _
          | some m =>
              have hkeyed := (hF.model hfind).1.keyed
              rw [encode_record hkeyed hfind]
              refine Attributed.bind ?_ fun entries hentries =>
                (Model.seal_decided hF hfind hentries).attributed
              refine encodeFields_attributed (fun f hf hneeded hdeclared hunset => ?_)
                fun f hf slot hslot => ?_
              · obtain ⟨d, hd, rfl⟩ := List.mem_map.1 hf
                rw [FieldDecl.asField_name (hkeyed.shaped d hd)] at hdeclared hunset ⊢
                obtain ⟨n, hn, hdeclared⟩ := (Option.any_eq_true _ _).1 hdeclared
                exact .unset hfind hd hneeded hn hdeclared hunset
              · obtain ⟨d, hd, rfl⟩ := List.mem_map.1 hf
                have hfound := hslot
                rw [FieldDecl.asField_name (hkeyed.shaped d hd)] at hfound
                exact (encode_attributed hF slot.value d.asField.shape).imp fun _ =>
                  .field hfind hd hfound
      | _ =>
          rw [encode]
          · exact attributed_refuse _ _ _
          · rintro own slots ⟨⟩
termination_by (sizeOf v, sizeOf s)
decreasing_by
  all_goals subst_vars
  · have := Value.sizeOf_lt_of_slot? hslot
    exact Prod.Lex.left _ _ (by simp +arith; omega)
  · exact Prod.Lex.right _ (Shape.sizeOf_lt_of_mem ht)
  · exact Prod.Lex.left _ _ (Value.sizeOf_lt_of_mem hx)
  · have := List.sizeOf_lt_of_mem hx
    exact Prod.Lex.left _ _ (by simp +arith; omega)
  · exact Prod.Lex.right _ (by simp +arith)

/-! ### Shapes without floats -/

namespace Shape

mutual

/-- Whether there is no float in a shape, other than in the fields of records. -/
def isFloatless : Shape → Bool
  | .primitive p => p.kind != .float
  | .nullable inner => inner.isFloatless
  | .sequence element => element.isFloatless
  | .union alternatives => areFloatless alternatives
  | _ => true

def areFloatless : List Shape → Bool
  | [] => true
  | s :: rest => s.isFloatless && areFloatless rest

end

theorem areFloatless_mem {alternatives : List Shape} (h : areFloatless alternatives = true)
    (hs : s ∈ alternatives) : s.isFloatless = true := by
  induction alternatives with
  | nil => cases hs
  | cons t rest ih =>
      rw [areFloatless, Bool.and_eq_true] at h
      rcases List.mem_cons.1 hs with rfl | hs
      · exact h.1
      · exact ih h.2 hs

mutual

theorem isFloatless_of_isRegular (s : Shape) (h : s.isRegular F = true) :
    s.isFloatless = true := by
  cases s with
  | primitive p => exact h
  | nullable inner => exact isFloatless_of_isRegular inner h
  | sequence element => exact isFloatless_of_isRegular element h
  | union alternatives =>
      rw [isRegular, Bool.and_eq_true] at h
      exact areFloatless_of_areRegular alternatives h.1
  | _ => rfl

theorem areFloatless_of_areRegular (alternatives : List Shape)
    (h : areRegular F alternatives = true) : areFloatless alternatives = true := by
  cases alternatives with
  | nil => rfl
  | cons s rest =>
      rw [areRegular, Bool.and_eq_true] at h
      rw [areFloatless, isFloatless_of_isRegular s h.1, areFloatless_of_areRegular rest h.2]
      rfl

end

end Shape

/-- Where there are no floats, encoding fails for an attribute that was never set, or for bytes. -/
theorem Unwritable.causes (hF : F.Regular) (h : Unwritable F v s f) (hs : s.isFloatless = true) :
    (∃ own name, f = .noAttribute own.name name ∧ v.Misses F own name) ∨ v.Garbles f := by
  induction h with
  | overflow kind =>
      rw [Shape.isFloatless, kind] at hs
      cases hs
  | bytes garbled => exact .inr garbled
  | @unset own _ slots _ n d _ _ _ ownModel declared missing =>
      exact .inl ⟨own, d.name, rfl, slots, n, .refl _, ownModel, declared, missing⟩
  | nullable _ ih => exact ih hs
  | @item v x xs element f sequence mem _ ih =>
      have hpart : x ∈ v.parts := by rcases sequence with rfl | rfl <;> exact mem
      refine (ih hs).imp ?_ fun hgarbles => hgarbles.part hpart
      rintro ⟨own, name, rfl, hmisses⟩
      exact ⟨own, name, rfl, hmisses.part hpart⟩
  | alternative listed _ ih => exact ih (Shape.areFloatless_mem hs listed)
  | @field own ref slots m d slot f model mem found _ ih =>
      have hshape := Shape.isFloatless_of_isRegular _ ((hF.model model).1.fields d mem).shape
      have hpart : slot.value ∈ (Value.record own slots).parts :=
        List.mem_map_of_mem (Value.mem_of_slot? found).1
      refine (ih hshape).imp ?_ fun hgarbles => hgarbles.part hpart
      rintro ⟨other, name, rfl, hmisses⟩
      exact ⟨other, name, rfl, hmisses.part hpart⟩

/-- Where there are no floats, a whole value is written or refused. -/
theorem encode_whole (hF : F.Regular) (hs : s.isFloatless = true) (hv : v.IsWhole F) :
    Decided (encode F v s) := by
  rcases encode_attributed hF.sound v s with hdecided | ⟨f, _, hcause⟩
  · exact hdecided
  · rcases hcause.causes hF hs with ⟨own, name, _, hmisses⟩ | hgarbles
    · exact absurd hmisses (hv.attributes own name)
    · exact absurd hgarbles (hv.bytes f)

/-! ### Attributes that were never set -/

section Unset

variable {slots : List (Slot Value)} {d : FieldDecl} {before after : List FieldDecl}

theorem encodeFields_unset (hm : m.Regular F) (hown : F.find? own = some m) (whole : Value)
    (hbefore : ∀ e ∈ before, e ∈ m.fields) (hready : ∀ e ∈ before, e.IsReady F slots)
    (hd : d ∈ m.fields) (hneeded : d.fallback = none)
    (hunset : Value.slot? slots d.name = none) :
    encodeFields F ref own slots whole ((before ++ d :: after).map FieldDecl.asField) =
      .error (.noAttribute own.name d.name) := by
  induction before with
  | nil =>
      have hregular := hm.fields d hd
      have hdeclares : m.declares d.name = true := Model.declares_iff.2 ⟨d, hd, rfl⟩
      rw [List.nil_append, List.map_cons, encodeFields, hregular.name_eq, hregular.optional_eq,
        hneeded, hown, Option.any_some, hdeclares]
      simp only [Option.isSome_none, Bool.false_and, Bool.not_true, Bool.false_eq_true, if_false]
      split
      · rfl
      · next s hslot => cases hunset.symm.trans hslot
  | cons e rest ih =>
      rw [List.cons_append, List.map_cons,
        encodeFields_cons hm hown (hbefore e (.head _)) (hready e (.head _)),
        ih (fun f hf => hbefore f (.tail e hf)) fun f hf => hready f (.tail e hf)]
      rfl

/-- An attribute that must be there and was never set makes encoding fail, if the attributes before
it are ready. -/
theorem encode_unset (hF : F.Regular) (hm : F.find? ref = some m)
    (hfields : m.fields = before ++ d :: after) (hready : ∀ e ∈ before, e.IsReady F slots)
    (hneeded : d.fallback = none) (hunset : Value.slot? slots d.name = none) :
    encode F (.record ref slots) (.record ref) = .error (.noAttribute ref.name d.name) := by
  have hregular := (hF.model hm).1
  have hbefore : ∀ e ∈ before, e ∈ m.fields := fun e he => hfields ▸ List.mem_append_left _ he
  have hd : d ∈ m.fields := hfields ▸ List.mem_append_right _ (.head _)
  rw [encode_record hregular.keyed hm, hfields,
    encodeFields_unset hregular hm _ hbefore hready hd hneeded hunset]
  rfl

/-- A record that is made of nothing is not refused where its model has a field that must be there:
encoding fails. -/
theorem encode_bare (hF : F.Regular) (hm : F.find? ref = some m)
    (h : ∃ d ∈ m.fields, d.fallback = none) :
    ∃ d ∈ m.fields, d.fallback = none ∧
      encode F (m.instanceOf []) (.record ref) = .error (.noAttribute ref.name d.name) := by
  obtain ⟨hregular, rfl⟩ := hF.model hm
  have hfirst : (m.fields.find? (·.fallback.isNone)).isSome = true := by
    obtain ⟨d, hd, hnone⟩ := h
    exact List.find?_isSome.2 ⟨d, hd, hnone ▸ rfl⟩
  obtain ⟨d, hfirst⟩ := Option.isSome_iff_exists.1 hfirst
  obtain ⟨hneeded, before, after, hfields, hbefore⟩ := List.find?_eq_some_iff_append.1 hfirst
  rw [Option.isNone_iff_eq_none] at hneeded
  have hd : d ∈ m.fields := hfields ▸ List.mem_append_right _ (.head _)
  refine ⟨d, hd, hneeded, encode_unset hF hm hfields (fun e he => ?_) hneeded ?_⟩
  · -- What is filled in is not written, and so it is ready.
    have hmem : e ∈ m.fields := hfields ▸ List.mem_append_left _ he
    obtain ⟨v, hv⟩ : ∃ v, e.fallback = some v := by
      simpa [Option.isSome_iff_exists] using hbefore e he
    refine ⟨⟨e.name, v, .filled⟩, ?_, hv, nofun⟩
    rw [hregular.slot?_instanceOf hmem, hv]
    rfl
  · rw [hregular.slot?_instanceOf hd, hneeded]
    rfl

end Unset

end EditorProtocol
