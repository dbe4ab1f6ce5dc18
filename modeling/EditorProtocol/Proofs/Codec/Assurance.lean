import EditorProtocol.Proofs.Codec.Answering
import EditorProtocol.Proofs.Codec.Writing
import EditorProtocol.Proofs.Value.Lookup

/-!
What validation makes sure of, it makes sure of throughout. No record gets into a decoded value but
through validation, or for want of a model, so a property that validation establishes for a record,
once the records in its attributes have it, is one of every record at any depth.
-/

namespace EditorProtocol

variable {F : Family} {P : ModelRef → List (Slot Value) → Prop} {exact : Bool} {v w : Value}

/-! ### Records in a value -/

namespace Value

/-- A property of records that every record in a value has. -/
def Holds (P : ModelRef → List (Slot Value) → Prop) (v : Value) : Prop :=
  ∀ own slots, v.Contains (.record own slots) → P own slots

theorem Holds.part (h : v.Holds P) {p : Value} (mem : p ∈ v.parts) : p.Holds P :=
  fun own slots inside => h own slots (.part mem inside)

/-- A value that is no record itself has a property of records if its parts do. -/
theorem holds_of_parts (hself : ∀ own slots, v ≠ .record own slots)
    (hparts : ∀ p ∈ v.parts, p.Holds P) : v.Holds P := by
  intro own slots h
  cases h with
  | refl => exact absurd rfl (hself own slots)
  | part mem inside => exact hparts _ mem own slots inside

theorem holds_list {xs : List Value} (h : ∀ x ∈ xs, x.Holds P) : (Value.list xs).Holds P :=
  holds_of_parts nofun h

theorem holds_record {own : ModelRef} {slots : List (Slot Value)} (hself : P own slots)
    (hslots : ∀ s ∈ slots, s.value.Holds P) : (Value.record own slots).Holds P := by
  intro other others h
  rcases h.record_inv with heq | ⟨s, hs, inside⟩
  · cases heq
    exact hself
  · exact hslots s hs other others inside

theorem Holds.at? {key : String} (h : w.Holds P) (hat : w.at? key = some v) : v.Holds P := by
  cases w with
  | object entries => exact h.part (List.mem_map_of_mem (f := (·.2)) (mem_of_lookup hat))
  | table rows =>
      obtain ⟨k, hmem⟩ := mem_of_lookupText hat
      exact h.part (List.mem_map_of_mem (f := (·.2)) hmem)
  | _ => cases hat

/-- Whether a value is neither a record nor made of other values. -/
def isAtom : Value → Bool
  | .null | .bool _ | .int _ | .float _ | .text _ | .bytes _ | .member _ => true
  | _ => false

theorem holds_of_isAtom (h : v.isAtom = true) : v.Holds P := by
  cases v with
  | list | tuple | set | object | table | record => cases h
  | _ => exact holds_of_parts nofun nofun

/-- There are no records in an admitted value. -/
theorem IsWire.holds (h : v.IsWire) : v.Holds P := by
  induction h with
  | list _ ih => exact holds_list ih
  | object _ ih => exact holds_of_parts nofun (List.forall_mem_map.2 ih)
  | table _ _ ih => exact holds_of_parts nofun (List.forall_mem_map.2 ih)
  | _ => exact holds_of_isAtom rfl

end Value

/-! ### Values without parts -/

theorem Fitted.isAtom_of_ofReading {α : Type} {read : Except Breach α} {make : α → Value}
    {r : Fitted} (hmake : ∀ a, (make a).isAtom = true) (h : ofReading v read make = .ok r) :
    r.value.isAtom = true := by
  cases read with
  | error b => cases h
  | ok a =>
      cases h
      exact hmake a

namespace Value

variable {r : Fitted}

theorem isAtom_of_fitFloat {marks : List Mark} (h : v.fitFloat marks = .ok r) :
    r.value.isAtom = true := by
  unfold fitFloat at h
  split at h
  · cases h
  · split at h
    · cases h
    · split at h <;> cases h <;> rfl

theorem isAtom_of_fitBoolean (h : v.fitBoolean = .ok r) : r.value.isAtom = true := by
  unfold fitBoolean at h
  split at h
  · cases h
    rfl
  · exact Fitted.isAtom_of_ofReading (fun _ => rfl) h

theorem isAtom_of_fitText (h : v.fitText = .ok r) : r.value.isAtom = true := by
  unfold fitText at h
  split at h
  · cases h
    rfl
  · cases h
    rfl
  · cases h
    rfl
  · exact Fitted.isAtom_of_ofReading (fun _ => rfl) h

theorem isAtom_of_fitCode {codes : List Code} (h : v.fitCode codes = .ok r) :
    r.value.isAtom = true := by
  unfold fitCode at h
  simp only at h
  split at h
  · next c _ =>
    cases h
    cases c with
    | plain code => cases code <;> rfl
    | member m => rfl
  · cases h

/-- A member that was found is an atom. -/
theorem isAtom_of_found {m? : Option EnumMember} {b : Breach}
    (h : (match m? with
      | some m => Except.ok (⟨.member m, .loose⟩ : Fitted)
      | none => Rejection.broken v b) = .ok r) : r.value.isAtom = true := by
  cases m? with
  | some m =>
      cases h
      rfl
  | none => cases h

theorem isAtom_of_fitMember {type : EnumType} (h : v.fitMember type = .ok r) :
    r.value.isAtom = true := by
  have hbyCode : ∀ {w}, fitMember.byCode w type.base
      (.notMember (type.members.map (·.code.render))) (fun code =>
        match type.members.find? fun m => (ofScalar m.code).same code with
        | some m => .ok (⟨.member m, .loose⟩ : Fitted)
        | none => Rejection.broken v (.notMember (type.members.map (·.code.render)))) = .ok r →
      r.value.isAtom = true := by
    intro w h
    unfold fitMember.byCode at h
    split at h
    · exact isAtom_of_found h
    · split at h
      · exact isAtom_of_found h
      · cases h
    · split at h
      · split at h
        · cases h
        · exact isAtom_of_found h
      · split at h
        · exact isAtom_of_found h
        · cases h
  unfold fitMember at h
  split at h
  · split at h
    · cases h
      rfl
    · exact hbyCode h
  · exact hbyCode h

end Value

/-! ### Taken values -/

/-- A property of records that validation makes sure of: every model takes care of it for the
records that it puts together from attributes of which it holds, and so does every value that is
filled in. -/
structure Family.Assures (F : Family) (P : ModelRef → List (Slot Value) → Prop) : Prop where
  known : ∀ ref m, F.find? ref = some m → ∀ w slots,
    fitFields F m.byName w m.fields = .ok ([], slots) →
      (m.ordered = true → checkOrder w slots = .ok ()) → (∀ s ∈ slots, s.value.Holds P) →
        P m.ref slots
  unknown : ∀ ref, F.find? ref = none → P ref []
  filled : ∀ m ∈ F.models, ∀ d ∈ m.fields, ∀ v, d.fallback = some v → v.Holds P

/-- The items that a sequence takes are taken each by itself. -/
theorem fitItems_forall₂ {u : TypeExpr} {i : Nat} {xs ys : List Value} {fit : Fit}
    (h : fitItems F i u xs = .ok (fit, ys)) :
    List.Forall₂ (fun x y => ∃ r, u.fit F [] x = .ok r ∧ r.value = y) xs ys := by
  induction xs generalizing i ys fit with
  | nil =>
      rw [fitItems] at h
      cases h
      exact .nil
  | cons x rest ih =>
      obtain ⟨y, others, ys, hx, hrest, rfl, rfl⟩ := fitItems_cons_iff.1 h
      exact .cons ⟨y, hx, rfl⟩ (ih hrest)

/-- What a union takes, one of its members did. -/
theorem fitFirst_inv {marks : List Mark} {best : Option Fitted} {failed : List Violation}
    {ts : List TypeExpr} {r : Fitted} (h : fitFirst F marks best failed ts v = .ok r) :
    best = some r ∨ ∃ t ∈ ts, t.fit F marks v = .ok r := by
  induction ts generalizing best failed with
  | nil =>
      cases best with
      | none =>
          rw [fitFirst] at h
          cases h
      | some b =>
          rw [fitFirst] at h
          cases h
          exact .inl rfl
  | cons t rest ih =>
      have hlater : ∀ {best failed}, fitFirst F marks best failed rest v = .ok r →
          best = some r ∨ ∃ u ∈ t :: rest, u.fit F marks v = .ok r := fun h =>
        (ih h).imp_right fun ⟨u, hu, hr⟩ => ⟨u, List.mem_cons_of_mem t hu, hr⟩
      rcases fitFirst_cons_inv h with ⟨_, h⟩ | ⟨_, ⟨vs, h⟩ | ⟨taken, ht, ⟨_, rfl⟩ | ⟨_, h⟩⟩⟩
      · exact hlater h
      · exact hlater h
      · exact .inr ⟨t, List.mem_cons_self, ht⟩
      · rcases hlater h with hbest | hlater
        · -- The better of two is one of them.
          cases best with
          | none =>
              cases hbest
              exact .inr ⟨t, List.mem_cons_self, ht⟩
          | some b =>
              change some (b.better taken) = some r at hbest
              unfold Fitted.better at hbest
              split at hbest
              · cases hbest
                exact .inr ⟨t, List.mem_cons_self, ht⟩
              · exact .inl hbest
        · exact .inr hlater

/-- The attributes of a record have a property if what is given for them and what is filled in
does. -/
theorem fitFields_holds {byName : Bool} {ds : List FieldDecl} {slots : List (Slot Value)}
    (h : fitFields F byName w ds = .ok ([], slots))
    (hfilled : ∀ d ∈ ds, ∀ v, d.fallback = some v → v.Holds P)
    (hgiven : ∀ d ∈ ds, ∀ key v r, d.given? byName w = some (key, v) → d.type.fit F [] v = .ok r →
      r.value.Holds P) :
    ∀ s ∈ slots, s.value.Holds P := by
  induction ds generalizing slots with
  | nil =>
      rw [fitFields] at h
      cases h
      exact List.forall_mem_nil _
  | cons d rest ih =>
      obtain ⟨others, hothers, hd⟩ := fitFields_cons_inv h
      have hrest := ih hothers (fun e he => hfilled e (List.mem_cons_of_mem d he))
        fun e he => hgiven e (List.mem_cons_of_mem d he)
      rcases hd with ⟨htaken, rfl⟩ | ⟨rfl, _⟩
      · refine List.forall_mem_cons.2 ⟨?_, hrest⟩
        unfold FieldDecl.IsTaken at htaken
        unfold FieldDecl.fitted
        split at htaken
        · next key v hv =>
          obtain ⟨r, hr⟩ := htaken
          simp only [hr]
          exact hgiven d List.mem_cons_self key v r hv hr
        · obtain ⟨v, hv⟩ := Option.isSome_iff_exists.1 htaken
          simp only [hv]
          exact hfilled d List.mem_cons_self v hv
      · exact hrest

/-- A record that is put together has a property that validation makes sure of, with all that is in
it. -/
theorem Family.Assures.complete (hF : F.Assures P) {ref : ModelRef} {m : Model}
    (hm : F.find? ref = some m) {slots : List (Slot Value)} {vs : List Violation}
    (hfields : fitFields F m.byName w m.fields = .ok (vs, slots))
    (hcomplete : m.complete w vs slots = .ok v)
    (hgiven : ∀ d ∈ m.fields, ∀ key v r, d.given? m.byName w = some (key, v) →
      d.type.fit F [] v = .ok r → r.value.Holds P) : v.Holds P := by
  obtain ⟨rfl, rfl, horder⟩ := Model.complete_inv hcomplete
  have hslots := fitFields_holds hfields (hF.filled m (Family.mem_of_find? hm).1) hgiven
  exact Value.holds_record (hF.known ref m hm w slots hfields horder hslots) hslots

/-- What a type takes has the property if the value that is given does. -/
theorem fit_holds (hF : F.Assures P) (t : TypeExpr) {marks : List Mark} {v : Value} {r : Fitted}
    (hv : v.Holds P) (h : t.fit F marks v = .ok r) : r.value.Holds P := by
  cases t with
  | marked u own =>
      rw [TypeExpr.fit] at h
      exact fit_holds hF u hv h
  | named name u =>
      rw [TypeExpr.fit] at h
      exact fit_holds hF u hv h
  | any =>
      rw [TypeExpr.fit] at h
      cases TypeExpr.eq_of_bounded h
      exact hv
  | literal codes =>
      rw [TypeExpr.fit] at h
      exact Value.holds_of_isAtom (Value.isAtom_of_fitCode (TypeExpr.bounded_inv h))
  | integer =>
      rw [TypeExpr.fit] at h
      obtain ⟨n, hvalue, _⟩ := Value.fitInteger_inv h
      rw [hvalue]
      exact Value.holds_of_isAtom rfl
  | float =>
      rw [TypeExpr.fit] at h
      exact Value.holds_of_isAtom (Value.isAtom_of_fitFloat h)
  | null =>
      rw [TypeExpr.fit] at h
      rw [Value.fitNull_inv (TypeExpr.bounded_inv h)]
      exact hv
  | boolean =>
      rw [TypeExpr.fit] at h
      exact Value.holds_of_isAtom (Value.isAtom_of_fitBoolean (TypeExpr.bounded_inv h))
  | text =>
      rw [TypeExpr.fit] at h
      exact Value.holds_of_isAtom (Value.isAtom_of_fitText (TypeExpr.bounded_inv h))
  | enumeration type =>
      rw [TypeExpr.fit] at h
      exact Value.holds_of_isAtom (Value.isAtom_of_fitMember (TypeExpr.bounded_inv h))
  | list =>
      rw [TypeExpr.fit.eq_def] at h
      dsimp only at h
      split at h
      · cases TypeExpr.eq_of_bounded h
        exact hv
      · cases TypeExpr.eq_of_bounded h
        exact Value.holds_list fun x hx => hv.part hx
      · cases h
  | sequence u =>
      rw [TypeExpr.fit.eq_def] at h
      dsimp only at h
      split at h
      · obtain ⟨⟨fit, ys⟩, hitems, h⟩ := bind_eq_ok.1 h
        cases TypeExpr.eq_of_bounded h
        refine Value.holds_list fun y hy => ?_
        obtain ⟨x, hx, s, hs, rfl⟩ := exists_of_forall₂ (fitItems_forall₂ hitems) hy
        exact fit_holds hF u (hv.part hx) hs
      · obtain ⟨⟨fit, ys⟩, hitems, h⟩ := bind_eq_ok.1 h
        cases TypeExpr.eq_of_bounded h
        refine Value.holds_list fun y hy => ?_
        obtain ⟨x, hx, s, hs, rfl⟩ := exists_of_forall₂ (fitItems_forall₂ hitems) hy
        exact fit_holds hF u (hv.part hx) hs
      · cases h
  | model ref =>
      rw [TypeExpr.fit.eq_def] at h
      dsimp only at h
      split at h
      · split at h
        · cases TypeExpr.eq_of_bounded h
          exact hv
        · cases h
      · split at h
        · split at h
          · next hnone =>
            cases h
            exact Value.holds_record (hF.unknown ref hnone) (List.forall_mem_nil _)
          · next m hm =>
            obtain ⟨⟨vs, slots⟩, hfields, h⟩ := bind_eq_ok.1 h
            obtain ⟨value, hcomplete, h⟩ := bind_eq_ok.1 h
            cases TypeExpr.eq_of_bounded h
            refine hF.complete hm hfields hcomplete fun d hd key x r hgiven hr => ?_
            obtain ⟨k, hk⟩ := FieldDecl.at?_of_given? hgiven
            exact fit_holds hF d.type (hv.at? hk) hr
        · cases h
  | union members barred =>
      rw [TypeExpr.fit] at h
      split at h
      · cases h
        exact Value.holds_of_isAtom rfl
      · split at h
        · obtain ⟨⟨⟩⟩ | ⟨t, ht, hr⟩ := fitFirst_inv h
          exact fit_holds hF t hv hr
        · obtain ⟨⟨⟩⟩ | ⟨t, ht, hr⟩ := fitFirst_inv (TypeExpr.bounded_inv h)
          exact fit_holds hF t hv hr
  | foreign name =>
      rw [TypeExpr.fit] at h
      cases h
      exact hv
  | mapping key value =>
      rw [TypeExpr.fit] at h
      cases h
      exact hv
  | shaped shape =>
      rw [TypeExpr.fit] at h
      cases h
      exact hv
termination_by (sizeOf v, sizeOf t)
decreasing_by
  · exact Prod.Lex.left _ _ (FieldDecl.sizeOf_lt_of_given? hgiven)
  all_goals subst_vars
  · exact Prod.Lex.right _ (TypeExpr.sizeOf_lt_of_mem barred ht)
  · exact Prod.Lex.right _ (TypeExpr.sizeOf_lt_of_mem barred ht)
  · exact Prod.Lex.left _ _ (Value.sizeOf_lt_of_part (v := .list _) hx)
  · exact Prod.Lex.left _ _ (Value.sizeOf_lt_of_part (v := .tuple _) hx)
  · exact Prod.Lex.right _ (by simp +arith)
  · exact Prod.Lex.right _ (by simp +arith)

/-! ### Decoded values -/

theorem Primitive.isAtom_of_accept {p : Primitive} (h : p.accept w = .ok v) :
    v.isAtom = true := by
  cases accepts_of_accept h <;> rfl

theorem EnumShape.isAtom_of_decode {e : EnumShape} (h : e.decode w = .ok v) :
    v.isAtom = true := by
  unfold decode at h
  obtain ⟨code, hcode, hv⟩ := bind_eq_ok.1 h
  obtain ⟨rfl, hadmits⟩ := accept_ok_iff.1 hcode
  cases hv
  cases e.memberOf? code with
  | some k => rfl
  | none =>
      cases code with
      | list | tuple | set | object | table | record =>
          cases e with
          | mk _ codes _ _ => cases codes <;> cases hadmits
      | _ => rfl

/-- Whatever is decoded, and from whatever, has a property that validation makes sure of. -/
theorem decode_holds (hF : F.Assures P) (s : Shape) {w v : Value}
    (h : (decode F exact w s).outcome = .ok v) : v.Holds P := by
  cases s with
  | primitive p =>
      rw [decode] at h
      exact Value.holds_of_isAtom (Primitive.isAtom_of_accept h)
  | enumeration e =>
      rw [decode] at h
      exact Value.holds_of_isAtom (EnumShape.isAtom_of_decode h)
  | any =>
      rw [decode, Traced.outcome_of] at h
      obtain ⟨_, hjson, h⟩ := bind_eq_ok.1 h
      cases h
      exact (Value.checkJson_iff.1 hjson).holds
  | nullable inner =>
      rw [decode] at h
      split at h
      · cases h
        exact Value.holds_of_isAtom rfl
      · exact decode_holds hF inner h
  | sequence element =>
      obtain ⟨xs, vs, rfl, rfl, hvs⟩ := decode_sequence_inv h
      refine Value.holds_list fun u hu => ?_
      obtain ⟨x, hx, hdecode⟩ := exists_of_forall₂ hvs hu
      exact decode_holds hF element hdecode
  | union alternatives =>
      obtain ⟨s, hs, h⟩ := decode_union_inv h
      exact decode_holds hF s h
  | record ref =>
      cases hm : F.find? ref with
      | none =>
          rw [decode_record_unknown hm h]
          exact Value.holds_record (hF.unknown ref hm) (List.forall_mem_nil _)
      | some m =>
          obtain ⟨fields, values, hvalues, h⟩ := decode_record_known hm h
          obtain ⟨slots, hfields, hcomplete⟩ := Model.assemble_inv h
          obtain ⟨_, rfl⟩ := decodeFields_ok_iff.1 hvalues
          refine hF.complete hm hfields hcomplete fun d _ key u r hgiven hr => ?_
          -- What is given for a field was decoded from the value of some field on the wire.
          obtain ⟨k, hk⟩ := FieldDecl.at?_of_given? hgiven
          obtain ⟨f, _, hf⟩ := List.mem_filterMap.1 (Value.mem_of_lookup hk)
          obtain ⟨x, hx, heq⟩ := Option.map_eq_some_iff.1 hf
          cases heq
          obtain ⟨item, hitem, hdecode⟩ := Field.value?_inv hx
          have hat := (Field.item?_some_iff.1 hitem).1
          exact fit_holds hF d.type (decode_holds hF f.shape hdecode) hr
termination_by (sizeOf w, sizeOf s)
decreasing_by
  · exact Prod.Lex.left _ _ (Value.sizeOf_lt_of_at? hat)
  all_goals subst_vars
  · exact Prod.Lex.right _ (Shape.sizeOf_lt_of_mem hs)
  · exact Prod.Lex.left _ _ (Value.sizeOf_lt_of_mem hx)
  · exact Prod.Lex.right _ (by simp +arith)

/-! ### Records on the wire -/

/-- Something stands at the place of a record of a model in what is written under a shape. What a
union has written counts as written by each alternative that would write it for some value. -/
inductive Shape.Places (F : Family) (ref : ModelRef) (x : Value) : Shape → Value → Prop
  | here : Places F ref x (.record ref) x
  | present {inner : Shape} {w : Value} (present : w ≠ .null) (inside : Places F ref x inner w) :
      Places F ref x (.nullable inner) w
  | item {element : Shape} {ws : List Value} {w : Value} (mem : w ∈ ws)
      (inside : Places F ref x element w) : Places F ref x (.sequence element) (.list ws)
  | alternative {alternatives : List Shape} {s : Shape} {v w : Value} (listed : s ∈ alternatives)
      (encoded : encode F v s = .ok w) (inside : Places F ref x s w) :
      Places F ref x (.union alternatives) w
  | field {other : ModelRef} {fields : List Field} {f : Field} {w item : Value}
      (fields_eq : F.fields other = .ok fields) (mem : f ∈ fields)
      (found : w.at? f.wire = some item) (present : item ≠ .null)
      (inside : Places F ref x f.shape item) : Places F ref x (.record other) w

/-- What is written at the place of a record is written for a record. -/
theorem Shape.Places.encoded (hF : F.Sound) {ref : ModelRef} {x : Value} {s : Shape}
    (h : s.Places F ref x w) (hv : encode F v s = .ok w) :
    ∃ u, encode F u (.record ref) = .ok x := by
  induction h generalizing v with
  | here => exact ⟨v, hv⟩
  | present present _ ih =>
      rw [encode] at hv
      split at hv
      · cases hv
        exact absurd rfl present
      · exact ih hv
  | item mem _ ih =>
      obtain ⟨xs, ws, heq, hws⟩ := encode_sequence_inv hv
      cases heq
      obtain ⟨y, _, hy⟩ := exists_of_forall₂ hws mem
      exact ih hy
  | alternative _ encoded _ ih => exact ih encoded
  | @field other fields f w item fields_eq mem found present _ ih =>
      cases hm : F.find? other with
      | none =>
          rw [Family.fields, hm] at fields_eq
          cases fields_eq
          cases mem
      | some m =>
          have hkeyed := (hF.model hm).1.keyed
          cases (hkeyed.family_fields hm).symm.trans fields_eq
          obtain ⟨d, hd, rfl⟩ := List.mem_map.1 mem
          obtain ⟨own, slots, rfl, _, hwrote⟩ := encode_record_wrote hkeyed hm hv
          have hitem := hwrote d hd
          rw [← FieldDecl.asField_wire (hkeyed.shaped d hd), found] at hitem
          cases hitem with
          | null => exact absurd rfl present
          | value _ _ encoded => exact ih encoded

end EditorProtocol
