import EditorProtocol.Proofs.Codec.Taking

/-!
Dictionaries as records. If every field is taken, or filled in where nothing is given, the record
has the fields in declared order; then only the order of a start and an end can be amiss. A value
with nothing but JSON in its objects is always taken or refused, since start and end are positions
if they are taken at all.
-/

namespace EditorProtocol

variable {F : Family} {byName : Bool} {w : Value}

/-! ### Fields -/

/-- A field is taken if the value given for it is, or if there is one to fill in for it. -/
def FieldDecl.IsTaken (F : Family) (byName : Bool) (w : Value) (d : FieldDecl) : Prop :=
  match d.given? byName w with
  | some (_, v) => ∃ r, d.type.fit F [] v = .ok r
  | none => d.fallback.isSome = true

/-- The attribute that becomes of a field that is taken. -/
def FieldDecl.fitted (F : Family) (byName : Bool) (w : Value) (d : FieldDecl) : Slot Value :=
  match d.given? byName w with
  | some (_, v) => ⟨d.name, ((d.type.fit F [] v).toOption.map (·.value)).getD .null, .given⟩
  | none => ⟨d.name, d.fallback.getD .null, .filled⟩

@[simp] theorem FieldDecl.fitted_name (d : FieldDecl) : (d.fitted F byName w).name = d.name := by
  unfold fitted
  split <;> rfl

/-- The attributes of an object all of whose fields are taken. -/
theorem fitFields_ok {ds : List FieldDecl} (h : ∀ d ∈ ds, d.IsTaken F byName w) :
    fitFields F byName w ds = .ok ([], ds.map (·.fitted F byName w)) := by
  induction ds with
  | nil => rw [fitFields, List.map_nil]
  | cons d rest ih =>
      have hd := h d List.mem_cons_self
      rw [fitFields, ih fun e he => h e (List.mem_cons_of_mem d he), List.map_cons]
      unfold FieldDecl.IsTaken at hd
      unfold FieldDecl.fitted
      split
      · next key v hgiven =>
        rw [hgiven] at hd ⊢
        obtain ⟨r, hr⟩ := hd
        simp only [hr]
        rfl
      · next hgiven =>
        rw [hgiven] at hd ⊢
        obtain ⟨v, hv⟩ := Option.isSome_iff_exists.1 hd
        simp only [hv]
        rfl

/-- Where no rule is broken, the first field is taken, or its type breaks rules in silence. -/
theorem fitFields_cons_inv {d : FieldDecl} {rest : List FieldDecl} {slots : List (Slot Value)}
    (h : fitFields F byName w (d :: rest) = .ok ([], slots)) :
    ∃ others, fitFields F byName w rest = .ok ([], others) ∧
      ((d.IsTaken F byName w ∧ slots = d.fitted F byName w :: others) ∨
        (slots = others ∧ ∃ v, d.type.fit F [] v = .error (.violations []))) := by
  unfold FieldDecl.IsTaken FieldDecl.fitted
  rw [fitFields] at h
  split at h
  · next key v hgiven =>
    rw [hgiven]
    obtain ⟨first, hfirst, h⟩ := bind_eq_ok.1 h
    obtain ⟨⟨vs, others⟩, hothers, h⟩ := bind_eq_ok.1 h
    cases first with
    | ok taken =>
        cases h
        have htaken := mapError_ok_iff.1 (collect_ok_iff.1 hfirst)
        refine ⟨others, hothers, .inl ⟨⟨taken, htaken⟩, ?_⟩⟩
        simp only [htaken]
        rfl
    | error ws =>
        -- A type that refuses a value without a broken rule would drop the field unseen.
        have hnil : ws ++ vs = [] := congrArg Prod.fst (Except.ok.inj h)
        obtain ⟨rfl, rfl⟩ := List.append_eq_nil_iff.1 hnil
        refine ⟨others, hothers, .inr ⟨(congrArg Prod.snd (Except.ok.inj h)).symm, v, ?_⟩⟩
        cases hfit : d.type.fit F [] v with
        | ok taken =>
            rw [hfit] at hfirst
            cases hfirst
        | error rejection =>
            rw [hfit] at hfirst
            cases rejection with
            | fault f => cases hfirst
            | violations vs =>
                cases vs with
                | nil => rfl
                | cons v vs => cases hfirst
  · next hgiven =>
    rw [hgiven]
    obtain ⟨⟨vs, others⟩, hothers, h⟩ := bind_eq_ok.1 h
    dsimp only at h
    split at h
    · next v hv =>
      cases h
      refine ⟨others, hothers, .inl ⟨?_, ?_⟩⟩
      · rw [hv]
        rfl
      · rw [hv]
        rfl
    · cases h

/-- Where no rule is broken, every field is taken whose type never breaks rules in silence. -/
theorem fitFields_slot {ds : List FieldDecl} {slots : List (Slot Value)}
    (nodup : (ds.map (·.name)).Nodup) (h : fitFields F byName w ds = .ok ([], slots))
    {d : FieldDecl} (hd : d ∈ ds) (hloud : ∀ v, d.type.fit F [] v ≠ .error (.violations [])) :
    d.IsTaken F byName w ∧ Value.slot? slots d.name = some (d.fitted F byName w) := by
  induction ds generalizing slots with
  | nil => cases hd
  | cons e rest ih =>
      rw [List.map_cons, List.nodup_cons] at nodup
      obtain ⟨others, hothers, ⟨htaken, rfl⟩ | ⟨rfl, v, hv⟩⟩ := fitFields_cons_inv h
      · rcases List.mem_cons.1 hd with rfl | hd
        · exact ⟨htaken, if_pos (FieldDecl.fitted_name d)⟩
        · have hne : (e.fitted F byName w).name ≠ d.name := by
            rw [FieldDecl.fitted_name]
            exact fun hname => nodup.1 (hname ▸ List.mem_map_of_mem hd)
          refine ⟨(ih nodup.2 hothers hd).1, ?_⟩
          show (if (e.fitted F byName w).name = d.name then some _ else _) = _
          rw [if_neg hne]
          exact (ih nodup.2 hothers hd).2
      · rcases List.mem_cons.1 hd with rfl | hd
        · exact absurd hv (hloud v)
        · exact ih nodup.2 hothers hd

/-- Fields are taken or break rules if their types take or refuse what is given for them. -/
theorem fitFields_answered {ds : List FieldDecl}
    (h : ∀ d ∈ ds, ∀ key v, d.given? byName w = some (key, v) → Answered (d.type.fit F [] v)) :
    ∃ vs slots, fitFields F byName w ds = .ok (vs, slots) := by
  induction ds with
  | nil => exact ⟨[], [], by rw [fitFields]⟩
  | cons d rest ih =>
      obtain ⟨vs, slots, hrest⟩ := ih fun e he => h e (List.mem_cons_of_mem d he)
      rw [fitFields, hrest]
      split
      · next key v hgiven =>
        obtain ⟨first, hfirst⟩ := ((h d List.mem_cons_self key v hgiven).under (.key key)).collect
        rw [hfirst]
        cases first with
        | ok taken => exact ⟨_, _, rfl⟩
        | error ws => exact ⟨_, _, rfl⟩
      · cases d.fallback with
        | none => exact ⟨_, _, rfl⟩
        | some v => exact ⟨_, _, rfl⟩

theorem collect_ne_violations {α : Type} {r : Except Rejection α} {vs : List Violation} :
    Rejection.collect r ≠ .error (.violations vs) := by
  intro h
  unfold Rejection.collect at h
  split at h <;> cases h

/-- The rules that fields break are collected and refuse nothing by themselves. -/
theorem fitFields_ne_violations {ds : List FieldDecl} {vs : List Violation} :
    fitFields F byName w ds ≠ .error (.violations vs) := by
  induction ds with
  | nil =>
      rw [fitFields]
      exact fun h => by cases h
  | cons d rest ih =>
      intro h
      rw [fitFields] at h
      split at h
      · next key v hgiven =>
        cases hfirst : Rejection.collect ((d.type.fit F [] v).mapError (.under (.key key))) with
        | error rejection =>
            rw [hfirst] at h
            cases h
            exact collect_ne_violations hfirst
        | ok first =>
            rw [hfirst, ok_bind] at h
            cases hrest : fitFields F byName w rest with
            | error rejection =>
                rw [hrest] at h
                cases h
                exact ih hrest
            | ok taken =>
                rw [hrest] at h
                cases first <;> cases h
      · cases hrest : fitFields F byName w rest with
        | error rejection =>
            rw [hrest] at h
            cases h
            exact ih hrest
        | ok taken =>
            rw [hrest, ok_bind] at h
            dsimp only at h
            split at h <;> cases h

/-! ### Records -/

namespace Model

variable {m : Model} {vs : List Violation} {slots : List (Slot Value)} {v : Value}

theorem complete_ok (h : m.ordered = true → checkOrder w slots = .ok ()) :
    m.complete w [] slots = .ok (.record m.ref slots) := by
  unfold complete
  cases hordered : m.ordered with
  | false => rfl
  | true =>
      simp only [if_true, h hordered]
      rfl

theorem complete_inv (h : m.complete w vs slots = .ok v) :
    vs = [] ∧ v = .record m.ref slots ∧ (m.ordered = true → checkOrder w slots = .ok ()) := by
  unfold complete at h
  cases vs with
  | cons b rest => cases h
  | nil =>
      cases hordered : m.ordered with
      | false =>
          rw [hordered] at h
          cases h
          exact ⟨rfl, rfl, fun h => by cases h⟩
      | true =>
          rw [hordered] at h
          obtain ⟨_, horder, h⟩ := bind_eq_ok.1 h
          cases h
          exact ⟨rfl, rfl, fun _ => horder⟩

theorem complete_answered
    (h : vs = [] → m.ordered = true → Answered (checkOrder w slots)) :
    Answered (m.complete w vs slots) := by
  unfold complete
  cases vs with
  | cons b rest => exact .refused _
  | nil =>
      cases hordered : m.ordered with
      | false => exact .ok _
      | true => exact (h rfl hordered).bind fun _ _ => .ok _

end Model

theorem checkOrder_loud {slots : List (Slot Value)} :
    checkOrder w slots ≠ .error (.violations []) := by
  intro h
  unfold checkOrder at h
  split at h
  · split at h
    · cases h
    · cases h
    · split at h <;> cases h
    · cases h
  · cases h

theorem Model.complete_loud {m : Model} {vs : List Violation} {slots : List (Slot Value)} :
    m.complete w vs slots ≠ .error (.violations []) := by
  intro h
  unfold complete at h
  cases vs with
  | cons b rest => cases h
  | nil =>
      cases hordered : m.ordered with
      | false =>
          rw [hordered] at h
          cases h
      | true =>
          rw [hordered] at h
          cases horder : checkOrder w slots with
          | ok _ =>
              rw [horder] at h
              cases h
          | error rejection =>
              rw [horder] at h
              cases h
              exact checkOrder_loud horder

/-- The record of a dictionary is put together from its fields. -/
theorem Model.validate_eq (m : Model) (hw : w.isObject = true) :
    m.validate F w =
      (fitFields F m.byName w m.fields >>= fun taken => m.complete w taken.1 taken.2) := by
  unfold validate
  rw [hw]
  rfl

/-- Decoded values give the record that they make. -/
theorem Model.assemble_ok_iff {m : Model} {values : List (String × Value)} {v : Value} :
    m.assemble F w values = .ok v ↔ m.make F values = .ok v := by
  unfold assemble
  cases m.make F values with
  | ok u => simp
  | error r =>
      cases r with
      | violations broken => exact ⟨nofun, nofun⟩
      | fault f => exact ⟨nofun, nofun⟩

/-- A record of decoded values is put together from the fields that they are taken for. -/
theorem Model.assemble_inv {m : Model} {values : List (String × Value)} {v : Value}
    (h : m.assemble F w values = .ok v) :
    ∃ slots, fitFields F m.byName (.object values) m.fields = .ok ([], slots) ∧
      m.complete (.object values) [] slots = .ok v := by
  rw [assemble_ok_iff, make, m.validate_eq rfl] at h
  obtain ⟨⟨vs, slots⟩, hfields, hcomplete⟩ := bind_eq_ok.1 h
  obtain ⟨rfl, _⟩ := complete_inv hcomplete
  exact ⟨slots, hfields, hcomplete⟩

section Model

variable {marks : List Mark} {ref : ModelRef} {m : Model}

/-- A dictionary is taken for a record field by field. -/
theorem fit_object (hm : F.find? ref = some m) (hw : w.isObject = true) :
    (TypeExpr.model ref).fit F marks w =
      (fitFields F m.byName w m.fields >>= fun taken => m.complete w taken.1 taken.2 >>= fun v =>
        TypeExpr.fit.bounded marks ⟨v, .loose⟩) := by
  rw [TypeExpr.fit]
  · rw [if_pos hw, hm]
  · rintro own slots rfl
    cases hw

theorem fit_strange (hw : ∀ own slots, w ≠ .record own slots) (hobject : w.isObject = false) :
    (TypeExpr.model ref).fit F marks w = Rejection.broken w (.notRecord ref.name) := by
  rw [TypeExpr.fit]
  · rw [hobject]
    rfl
  · exact hw

/-- What is no record itself gives one of the model only as a dictionary of its fields. -/
theorem fit_object_inv (hm : F.find? ref = some m) (hw : ∀ own slots, w ≠ .record own slots)
    {r : Fitted} (h : (TypeExpr.model ref).fit F marks w = .ok r) :
    ∃ slots, fitFields F m.byName w m.fields = .ok ([], slots) ∧ r.value = .record m.ref slots := by
  cases hobject : w.isObject with
  | false =>
      rw [fit_strange hw hobject] at h
      cases h
  | true =>
      rw [fit_object hm hobject] at h
      obtain ⟨⟨vs, slots⟩, hfields, h⟩ := bind_eq_ok.1 h
      obtain ⟨v, hcomplete, h⟩ := bind_eq_ok.1 h
      cases TypeExpr.eq_of_bounded h
      obtain ⟨rfl, rfl, _⟩ := Model.complete_inv hcomplete
      exact ⟨slots, hfields, rfl⟩

/-- A model never breaks rules in silence. -/
theorem fit_model_loud (hm : F.find? ref = some m) (w : Value) :
    (TypeExpr.model ref).fit F [] w ≠ .error (.violations []) := by
  intro h
  by_cases hw : ∀ own slots, w ≠ .record own slots
  · cases hobject : w.isObject with
    | false =>
        rw [fit_strange hw hobject] at h
        cases h
    | true =>
        rw [fit_object hm hobject] at h
        cases hfields : fitFields F m.byName w m.fields with
        | error rejection =>
            rw [hfields] at h
            cases h
            exact fitFields_ne_violations hfields
        | ok taken =>
            rw [hfields, ok_bind] at h
            cases hcomplete : m.complete w taken.1 taken.2 with
            | ok v =>
                rw [hcomplete, ok_bind, TypeExpr.bounded_free rfl] at h
                cases h
            | error rejection =>
                rw [hcomplete] at h
                cases h
                exact Model.complete_loud hcomplete
  · simp only [ne_eq, not_forall, not_not] at hw
    obtain ⟨own, slots, rfl⟩ := hw
    rw [TypeExpr.fit] at h
    split at h
    · rw [TypeExpr.bounded_free rfl] at h
      cases h
    · cases h

end Model

/-! ### Positions -/

theorem fit_isInteger {t : TypeExpr} (ht : t.isInteger = true) :
    ∃ marks, ∀ v, t.fit F [] v = v.fitInteger marks := by
  rcases TypeExpr.isInteger_iff.1 ht with rfl | ⟨marks, rfl⟩
  · exact ⟨[], fun v => by rw [TypeExpr.fit]⟩
  · exact ⟨marks ++ [], fun v => by rw [TypeExpr.fit, TypeExpr.fit]⟩

/-- What a field that must be there, under its own name, gives to a record. -/
theorem fitted_needed {d : FieldDecl} (hwire : d.wire = d.name) (hnone : d.fallback.isNone = true)
    (htaken : d.IsTaken F byName w) :
    ∃ v r, w.at? d.name = some v ∧ d.type.fit F [] v = .ok r ∧
      d.fitted F byName w = ⟨d.name, r.value, .given⟩ := by
  have hgiven : ∀ key v, d.given? byName w = some (key, v) → w.at? d.name = some v := by
    intro key v h
    unfold FieldDecl.given? at h
    rw [hwire] at h
    split at h
    · next u hu =>
      cases h
      exact hu
    · split at h <;> cases h
  unfold FieldDecl.IsTaken at htaken
  unfold FieldDecl.fitted
  split at htaken
  · next key v h =>
    obtain ⟨r, hr⟩ := htaken
    refine ⟨v, r, hgiven _ _ h, hr, ?_⟩
    simp only [hr]
    rfl
  · rw [Option.isNone_iff_eq_none.1 hnone] at htaken
    cases htaken

theorem fit_coordinate {ds : List FieldDecl} {slots : List (Slot Value)} {d : FieldDecl}
    (nodup : (ds.map (·.name)).Nodup) (h : fitFields F byName w ds = .ok ([], slots))
    (hd : d ∈ ds) (hwire : d.wire = d.name) (hnone : d.fallback.isNone = true)
    (hinteger : d.type.isInteger = true) :
    ∃ n, Value.attribute? slots d.name = some (.int n) ∧
      ∀ x k, w.at? d.name = some x → x.integer? = some k → n = k := by
  obtain ⟨marks, hfit⟩ := fit_isInteger (F := F) hinteger
  have hloud : ∀ v, d.type.fit F [] v ≠ .error (.violations []) := by
    intro v
    rw [hfit]
    exact Value.fitInteger_loud marks v
  obtain ⟨htaken, hslot⟩ := fitFields_slot nodup h hd hloud
  obtain ⟨v, r, hv, hr, hfitted⟩ := fitted_needed hwire hnone htaken
  rw [hfit] at hr
  obtain ⟨n, hvalue, _, _, hint⟩ := Value.fitInteger_inv hr
  refine ⟨n, ?_, fun x k hx hk => hint k (Option.some.inj (hx.symm.trans hv) ▸ hk)⟩
  unfold Value.attribute?
  rw [hslot, hfitted, hvalue]
  rfl

/-- A dictionary that has a line and a character, those of a position. -/
def Value.Denotes (w : Value) (p : Position) : Prop :=
  (∃ x, w.at? "line" = some x ∧ x.integer? = some p.line) ∧
    ∃ x, w.at? "character" = some x ∧ x.integer? = some p.character

/-- Where the fields of the model of positions are taken, the record is at a position, which is the
one that the dictionary denotes, if it does. -/
theorem fitFields_position {ref : ModelRef} {m : Model} {slots : List (Slot Value)}
    (hm : F.find? ref = some m) (nodup : (m.fields.map (·.name)).Nodup)
    (hpos : F.isPositional (.model ref) = true)
    (h : fitFields F byName w m.fields = .ok ([], slots)) :
    ∃ p, (Value.record m.ref slots).IsAt p ∧ ∀ q, w.Denotes q → p = q := by
  obtain ⟨_, _, heq, hm', hkind, ⟨d, hd, hname, hwire, hnone, hinteger⟩,
    ⟨e, he, hname', hwire', hnone', hinteger'⟩⟩ := Family.isPositional_inv hpos
  cases heq
  rw [hm] at hm'
  cases hm'
  obtain ⟨l, hl, hline⟩ := fit_coordinate nodup h hd (hwire.trans hname.symm) hnone hinteger
  obtain ⟨c, hc, hcharacter⟩ :=
    fit_coordinate nodup h he (hwire'.trans hname'.symm) hnone' hinteger'
  rw [hname] at hl hline
  rw [hname'] at hc hcharacter
  refine ⟨⟨l, c⟩, ⟨m.ref, slots, rfl, ?_, hl, hc⟩, ?_⟩
  · rw [(Family.mem_of_find? hm).2]
    exact hkind
  · rintro ⟨l', c'⟩ ⟨⟨x, hx, hxl⟩, y, hy, hyc⟩
    rw [hline x l' hx hxl, hcharacter y c' hy hyc]

/-- Where the model of positions takes a dictionary, it gives the position that the dictionary
denotes, if it denotes one. -/
theorem fit_position {ref : ModelRef} {m : Model} {r : Fitted} (hm : F.find? ref = some m)
    (nodup : (m.fields.map (·.name)).Nodup) (hpos : F.isPositional (.model ref) = true)
    (hw : ∀ own slots, w ≠ .record own slots)
    (h : (TypeExpr.model ref).fit F [] w = .ok r) :
    ∃ p, r.value.IsAt p ∧ ∀ q, w.Denotes q → p = q := by
  obtain ⟨slots, hfields, hvalue⟩ := fit_object_inv hm hw h
  rw [hvalue]
  exact fitFields_position hm nodup hpos hfields

/-- A record that a model must have was given under its own name and taken. -/
theorem FieldDecl.taken_record {ds : List FieldDecl} {d : FieldDecl} {slots : List (Slot Value)}
    {ref : ModelRef} {m : Model} (nodup : (ds.map (·.name)).Nodup) (hd : d ∈ ds)
    (hwire : d.wire = d.name) (hnone : d.fallback.isNone = true) (htype : d.type = .model ref)
    (hm : F.find? ref = some m) (h : fitFields F byName w ds = .ok ([], slots)) :
    ∃ v r, w.at? d.name = some v ∧ (TypeExpr.model ref).fit F [] v = .ok r ∧
      Value.attribute? slots d.name = some r.value := by
  have hloud : ∀ v, d.type.fit F [] v ≠ .error (.violations []) := by
    rw [htype]
    exact fit_model_loud hm
  obtain ⟨htaken, hslot⟩ := fitFields_slot nodup h hd hloud
  obtain ⟨v, r, hv, hr, hfitted⟩ := fitted_needed hwire hnone htaken
  rw [htype] at hr
  refine ⟨v, r, hv, hr, ?_⟩
  unfold Value.attribute?
  rw [hslot, hfitted]
  rfl

/-! ### Values that are always answered -/

/-- A value with nothing but admitted values in its dictionaries, whatever records it holds. -/
inductive Value.IsTame : Value → Prop
  | wire {v : Value} (wire : v.IsWire) : IsTame v
  | member (m : EnumMember) : IsTame (.member m)
  | record (model : ModelRef) (slots : List (Slot Value)) : IsTame (.record model slots)
  | list {xs : List Value} (items : ∀ x ∈ xs, IsTame x) : IsTame (.list xs)

theorem Value.IsTame.items {xs : List Value} (h : (Value.list xs).IsTame) :
    ∀ x ∈ xs, x.IsTame := by
  cases h with
  | list items => exact items
  | wire wire =>
      cases wire with
      | list items => exact fun x hx => .wire (items x hx)

theorem Value.IsTame.object {v : Value} (h : v.IsTame) (hobject : v.isObject = true) :
    v.IsWire := by
  cases h with
  | wire wire => exact wire
  | _ => cases hobject

theorem FieldDecl.at?_of_given? {d : FieldDecl} {v : Value} {key : String}
    (h : d.given? byName w = some (key, v)) : ∃ k, w.at? k = some v := by
  unfold given? at h
  split at h
  · next u hu =>
    cases h
    exact ⟨_, hu⟩
  · split at h
    · split at h
      · next u hu =>
        cases h
        exact ⟨_, hu⟩
      · cases h
    · cases h

/-- The order of a start and an end can be told if they are positions once they are taken. -/
theorem checkOrder_answered {m : Model} (nodup : (m.fields.map (·.name)).Nodup)
    (hstart : m.Needs "start" F.isPositional) (hstop : m.Needs "end" F.isPositional)
    (hplaced : ∀ d ∈ m.fields, ∀ ref, d.type = .model ref → F.isPositional (.model ref) = true →
      ∀ v r, w.at? d.name = some v → (TypeExpr.model ref).fit F [] v = .ok r → ∃ p, r.value.IsAt p)
    {slots : List (Slot Value)} (h : fitFields F byName w m.fields = .ok ([], slots)) :
    Answered (checkOrder w slots) := by
  have hplace : ∀ {name : String}, m.Needs name F.isPositional →
      ∃ v p, Value.attribute? slots name = some v ∧ v.IsAt p := by
    intro name hneeds
    obtain ⟨d, hd, rfl, hwire, hnone, hpos⟩ := hneeds
    obtain ⟨ref, n, htype, hn, _⟩ := Family.isPositional_inv hpos
    obtain ⟨v, r, hv, hr, hattribute⟩ :=
      FieldDecl.taken_record nodup hd hwire hnone htype hn h
    obtain ⟨p, hp⟩ := hplaced d hd ref htype (htype ▸ hpos) v r hv hr
    exact ⟨r.value, p, hattribute, hp⟩
  obtain ⟨start, p, hstart, hp⟩ := hplace hstart
  obtain ⟨stop, q, hstop, hq⟩ := hplace hstop
  rw [checkOrder_eq hstart hstop hp hq]
  split
  · exact .ok ()
  · exact .refused _

/-- In a dictionary of admitted values, the start and the end are dictionaries of coordinates. -/
theorem Value.IsWire.placed (hF : F.Sound) (hw : w.IsWire) {ref : ModelRef}
    (hpos : F.isPositional (.model ref) = true) {v : Value} {r : Fitted} {name : String}
    (hv : w.at? name = some v) (hr : (TypeExpr.model ref).fit F [] v = .ok r) :
    ∃ p, r.value.IsAt p ∧ ∀ q, v.Denotes q → p = q := by
  obtain ⟨_, n, heq, hn, _⟩ := Family.isPositional_inv hpos
  cases heq
  refine fit_position hn (hF.model hn).1.keyed.names hpos ?_ hr
  rintro own slots rfl
  cases hw.at? hv

end EditorProtocol
