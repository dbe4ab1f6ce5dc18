import EditorProtocol.Shape.Reach

/-!
What a shape reaches: itself, and through alternatives, elements, inner shapes and the fields of
records everything that these reach. What holds of a shape and of all fields of a family, and passes
to the parts of a shape, holds of all that is reached.

The walk over a shape meets the shape first and only what it reaches, each once, however often it is
on the stack. Whatever is on the stack has been seen or is met in the end, with all its parts, so
that nothing is left out, unless the fields of a record that is reached have no shapes.
-/

namespace EditorProtocol

variable {F : Family} {s t : Shape}

theorem Shape.sizeOf_lt_of_mem {s : Shape} {alternatives : List Shape} (hs : s ∈ alternatives) :
    sizeOf s < sizeOf (Shape.union alternatives) := by
  have := List.sizeOf_lt_of_mem hs
  simp only [union.sizeOf_spec]
  omega

theorem Shape.same_iff {a b : Shape} : a.same b = true ↔ a.untyped = b.untyped := beq_iff_eq

namespace Family

theorem fields_of_find {ref : ModelRef} {m : Model} {fields : List Field}
    (hm : F.find? ref = some m) (h : m.fields.mapM (·.field) = .ok fields) :
    F.fields ref = .ok fields := by
  rw [Family.fields, hm]
  exact h

/-- The shapes that a shape leads to, itself included. -/
inductive Reaches (F : Family) (s : Shape) : Shape → Prop
  | refl : Reaches F s s
  | part {t u : Shape} (h : Reaches F s t) (part : u ∈ t.innerParts) : Reaches F s u
  | field {ref : ModelRef} {fields : List Field} {f : Field} (h : Reaches F s (.record ref))
      (fields_eq : F.fields ref = .ok fields) (mem : f ∈ fields) : Reaches F s f.shape

/-- What parts inherit and all fields have, everything that is reached has. -/
theorem Reaches.keeps {P : Shape → Prop} (h : F.Reaches s t) (start : P s)
    (part : ∀ t u, P t → u ∈ t.innerParts → P u)
    (field : ∀ ref fields, F.fields ref = .ok fields → ∀ f ∈ fields, P f.shape) : P t := by
  induction h with
  | refl => exact start
  | part _ hpart ih => exact part _ _ ih hpart
  | field _ fields_eq mem => exact field _ _ fields_eq _ mem

theorem Reaches.trans {u : Shape} (h : F.Reaches s t) (k : F.Reaches t u) : F.Reaches s u := by
  induction k with
  | refl => exact h
  | part _ hpart ih => exact ih.part hpart
  | field _ fields_eq mem ih => exact ih.field fields_eq mem

/-- A walk opens a record that it has not seen. -/
theorem walkFrom_record {seen rest : List Shape} {ref : ModelRef} {m : Model}
    (hseen : ref ∉ Shape.refs seen) (hm : F.find? ref = some m) :
    F.walkFrom seen (.record ref :: rest) =
      match m.fields.mapM (·.field) with
      | .error e => ⟨[.record ref], some e⟩
      | .ok fields =>
        (F.walkFrom (.record ref :: seen) (fields.map (·.shape) ++ rest)).after (.record ref) := by
  rw [walkFrom, dif_neg hseen]
  split
  · next hnone => cases hnone.symm.trans hm
  · next m' hm' =>
    cases hm'.symm.trans hm
    rfl

theorem walkFrom_unknown {seen rest : List Shape} {ref : ModelRef}
    (hseen : ref ∉ Shape.refs seen) (hnone : F.find? ref = none) :
    F.walkFrom seen (.record ref :: rest) =
      (F.walkFrom (.record ref :: seen) rest).after (.record ref) := by
  rw [walkFrom, dif_neg hseen]
  split
  · rfl
  · next m hm => cases hm.symm.trans hnone

/-- A walk passes over a shape that it has seen, but for the members of its enumerations. -/
theorem walkFrom_seen {seen rest : List Shape} {head : Shape} (hrecord : ∀ ref, head ≠ .record ref)
    (hseen : head.untyped ∈ seen) : F.walkFrom seen (head :: rest) = F.walkFrom seen rest := by
  rw [walkFrom, if_pos hseen]
  exact hrecord

theorem walkFrom_new {seen rest : List Shape} {head : Shape} (hrecord : ∀ ref, head ≠ .record ref)
    (hseen : head.untyped ∉ seen) :
    F.walkFrom seen (head :: rest) =
      (F.walkFrom (head.untyped :: seen) (head.innerParts ++ rest)).after head := by
  rw [walkFrom, if_neg hseen]
  exact hrecord

/-- A walk meets only what is reached from the shapes that it has still to visit. -/
theorem reaches_of_walkFrom {seen stack : List Shape} (hstack : ∀ u ∈ stack, F.Reaches s u) :
    ∀ t ∈ (F.walkFrom seen stack).shapes, F.Reaches s t := by
  induction seen, stack using walkFrom.induct F with
  | case1 seen =>
      rw [walkFrom]
      exact fun t ht => (List.not_mem_nil ht).elim
  | case2 seen ref rest hseen ih =>
      rw [walkFrom, dif_pos hseen]
      exact ih (List.forall_mem_cons.1 hstack).2
  | case3 seen ref rest hseen hnone ih =>
      obtain ⟨hhead, hrest⟩ := List.forall_mem_cons.1 hstack
      rw [walkFrom_unknown hseen hnone]
      exact List.forall_mem_cons.2 ⟨hhead, ih hrest⟩
  | case4 seen ref rest hseen m hm e he =>
      rw [walkFrom_record hseen hm, he]
      exact List.forall_mem_cons.2
        ⟨(List.forall_mem_cons.1 hstack).1, fun t ht => (List.not_mem_nil ht).elim⟩
  | case5 seen ref rest hseen m hm fields hfields ih =>
      obtain ⟨hhead, hrest⟩ := List.forall_mem_cons.1 hstack
      rw [walkFrom_record hseen hm, hfields]
      refine List.forall_mem_cons.2 ⟨hhead, ih fun u hu => ?_⟩
      rcases List.mem_append.1 hu with hu | hu
      · obtain ⟨f, hf, rfl⟩ := List.mem_map.1 hu
        exact hhead.field (fields_of_find hm hfields) hf
      · exact hrest u hu
  | case6 seen head rest hrecord hseen ih =>
      rw [walkFrom_seen hrecord hseen]
      exact ih (List.forall_mem_cons.1 hstack).2
  | case7 seen head rest hrecord hseen ih =>
      obtain ⟨hhead, hrest⟩ := List.forall_mem_cons.1 hstack
      rw [walkFrom_new hrecord hseen]
      refine List.forall_mem_cons.2 ⟨hhead, ih fun u hu => ?_⟩
      rcases List.mem_append.1 hu with hu | hu
      · exact hhead.part hu
      · exact hrest u hu

/-- What a walk over a shape meets, the shape reaches. -/
theorem reaches_of_walk (h : t ∈ (F.walk s).shapes) : F.Reaches s t := by
  refine reaches_of_walkFrom (fun u hu => ?_) t h
  cases List.mem_singleton.1 hu
  exact .refl

/-! ### All that is reached is met -/

theorem mem_refs {ref : ModelRef} {shapes : List Shape} :
    ref ∈ Shape.refs shapes ↔ Shape.record ref ∈ shapes := by
  induction shapes with
  | nil => exact ⟨nofun, nofun⟩
  | cons s rest ih =>
      cases s with
      | record r => simp [Shape.refs, ih]
      | _ => simp [Shape.refs, ih]

/-- A shape is among those that were seen before or are met, but for the members of its
enumerations. -/
def Meets (seen met : List Shape) (s : Shape) : Prop :=
  s.untyped ∈ seen ∨ ∃ t ∈ met, t.untyped = s.untyped

/-- The shapes that a shape consists of: the parts of one that is no record, and the shapes of the
fields of a record. -/
inductive IsPart (F : Family) (s : Shape) : Shape → Prop
  | inner {t : Shape} (mem : t ∈ s.innerParts) : IsPart F s t
  | field {ref : ModelRef} {fields : List Field} {f : Field} (record : s = .record ref)
      (fields_eq : F.fields ref = .ok fields) (mem : f ∈ fields) : IsPart F s f.shape

/-- A walk meets all that it has to visit, and the parts of what it meets. -/
structure MeetsAll (F : Family) (seen stack met : List Shape) : Prop where
  stack : ∀ s ∈ stack, Meets seen met s
  parts : ∀ s ∈ met, ∀ t, IsPart F s t → Meets seen met t

/-- A shape is met, and what is met after it has its parts to visit as well. -/
theorem MeetsAll.after {seen stack rest met : List Shape} (head : Shape)
    (h : MeetsAll F (head.untyped :: seen) stack met) (hrest : ∀ s ∈ rest, s ∈ stack)
    (hparts : ∀ t, IsPart F head t → t ∈ stack) :
    MeetsAll F seen (head :: rest) (head :: met) := by
  have hafter : ∀ s, Meets (head.untyped :: seen) met s → Meets seen (head :: met) s := by
    rintro s (hseen | ⟨t, ht, heq⟩)
    · rcases List.mem_cons.1 hseen with heq | hseen
      · exact .inr ⟨head, List.mem_cons_self, heq.symm⟩
      · exact .inl hseen
    · exact .inr ⟨t, List.mem_cons_of_mem head ht, heq⟩
  constructor
  · refine List.forall_mem_cons.2 ⟨.inr ⟨head, List.mem_cons_self, rfl⟩, fun s hs => ?_⟩
    exact hafter s (h.stack s (hrest s hs))
  · refine List.forall_mem_cons.2 ⟨fun t ht => ?_, fun s hs t ht => ?_⟩
    · exact hafter t (h.stack t (hparts t ht))
    · exact hafter t (h.parts s hs t ht)

/-- What was seen before need not be visited. -/
theorem MeetsAll.skip {seen rest met : List Shape} {head : Shape}
    (h : MeetsAll F seen rest met) (hseen : head.untyped ∈ seen) :
    MeetsAll F seen (head :: rest) met :=
  ⟨List.forall_mem_cons.2 ⟨.inl hseen, h.stack⟩, h.parts⟩

theorem meetsAll_walkFrom {seen stack : List Shape}
    (hend : (F.walkFrom seen stack).failure = none) :
    MeetsAll F seen stack (F.walkFrom seen stack).shapes := by
  induction seen, stack using walkFrom.induct F with
  | case1 seen =>
      rw [walkFrom]
      exact ⟨List.forall_mem_nil _, List.forall_mem_nil _⟩
  | case2 seen ref rest hseen ih =>
      rw [walkFrom, dif_pos hseen] at hend ⊢
      exact (ih hend).skip (mem_refs.1 hseen)
  | case3 seen ref rest hseen hnone ih =>
      rw [walkFrom_unknown hseen hnone] at hend ⊢
      refine MeetsAll.after (.record ref) (ih hend) (fun s hs => hs) fun t ht => ?_
      cases ht with
      | inner mem => cases mem
      | field record fields_eq mem =>
          cases record
          rw [fields, hnone] at fields_eq
          cases fields_eq
          cases mem
  | case4 seen ref rest hseen m hm e he =>
      rw [walkFrom_record hseen hm, he] at hend
      cases hend
  | case5 seen ref rest hseen m hm fields hfields ih =>
      rw [walkFrom_record hseen hm, hfields] at hend ⊢
      refine MeetsAll.after (.record ref) (ih hend)
        (fun s hs => List.mem_append_right _ hs) fun t ht => ?_
      cases ht with
      | inner mem => cases mem
      | field record fields_eq mem =>
          cases record
          cases fields_eq.symm.trans (fields_of_find hm hfields)
          exact List.mem_append_left _ (List.mem_map_of_mem mem)
  | case6 seen head rest hrecord hseen ih =>
      rw [walkFrom_seen hrecord hseen] at hend ⊢
      exact (ih hend).skip hseen
  | case7 seen head rest hrecord hseen ih =>
      rw [walkFrom_new hrecord hseen] at hend ⊢
      refine MeetsAll.after head (ih hend)
        (fun s hs => List.mem_append_right _ hs) fun t ht => ?_
      cases ht with
      | inner mem => exact List.mem_append_left _ mem
      | field record fields_eq mem => exact (hrecord _ record).elim

theorem untypedAll_eq_map (shapes : List Shape) :
    Shape.untypedAll shapes = shapes.map Shape.untyped := by
  induction shapes with
  | nil => rfl
  | cons s rest ih => rw [Shape.untypedAll, ih, List.map_cons]

theorem innerParts_untyped (s : Shape) : s.untyped.innerParts = s.innerParts.map Shape.untyped := by
  cases s with
  | union alternatives => exact untypedAll_eq_map alternatives
  | _ => rfl

theorem eq_record_of_untyped {ref : ModelRef} (h : t.untyped = .record ref) : t = .record ref := by
  cases t with
  | record r => exact h
  | _ => cases h

/-- Shapes that differ in the members of their enumerations only have the same parts. -/
theorem exists_part (huntyped : t.untyped = s.untyped) {u : Shape} (hu : IsPart F s u) :
    ∃ v, IsPart F t v ∧ v.untyped = u.untyped := by
  cases hu with
  | inner mem =>
      have hmem : u.untyped ∈ t.innerParts.map Shape.untyped := by
        rw [← innerParts_untyped, huntyped, innerParts_untyped]
        exact List.mem_map_of_mem mem
      obtain ⟨v, hv, heq⟩ := List.mem_map.1 hmem
      exact ⟨v, .inner hv, heq⟩
  | field record fields_eq mem =>
      cases record
      exact ⟨_, .field (eq_record_of_untyped huntyped) fields_eq mem, rfl⟩

/-- Where a walk comes to its end, it meets whatever the shape reaches. -/
theorem met_of_reaches (hend : (F.walk s).failure = none) (h : F.Reaches s t) :
    ∃ u ∈ (F.walk s).shapes, u.untyped = t.untyped := by
  have hall := meetsAll_walkFrom hend
  have hmet : ∀ t, Meets [] (F.walk s).shapes t →
      ∃ u ∈ (F.walk s).shapes, u.untyped = t.untyped := by
    rintro t (hseen | hmet)
    · cases hseen
    · exact hmet
  have hpart : ∀ {t u}, IsPart F t u → (∃ v ∈ (F.walk s).shapes, v.untyped = t.untyped) →
      ∃ v ∈ (F.walk s).shapes, v.untyped = u.untyped := by
    rintro t u hu ⟨v, hv, heq⟩
    obtain ⟨w, hw, hwu⟩ := exists_part heq hu
    obtain ⟨x, hx, hxw⟩ := hmet w (hall.parts v hv w hw)
    exact ⟨x, hx, hxw.trans hwu⟩
  induction h with
  | refl => exact hmet s (hall.stack s List.mem_cons_self)
  | part h mem ih => exact hpart (.inner mem) ih
  | field h fields_eq mem ih => exact hpart (.field rfl fields_eq mem) ih

theorem met_record_of_reaches (hend : (F.walk s).failure = none) {ref : ModelRef}
    (h : F.Reaches s (.record ref)) : Shape.record ref ∈ (F.walk s).shapes := by
  obtain ⟨u, hu, heq⟩ := met_of_reaches hend h
  exact eq_record_of_untyped heq ▸ hu

/-! ### Walks that are cut short -/

/-- A shape that is reached is a record whose fields have no shapes, for a reason. -/
def ReachesUndefined (F : Family) (s : Shape) (e : DefinitionError) : Prop :=
  ∃ ref, F.Reaches s (.record ref) ∧ F.fields ref = .error e

theorem ReachesUndefined.of_reaches {e : DefinitionError} (h : F.ReachesUndefined t e)
    (hst : F.Reaches s t) : F.ReachesUndefined s e := by
  obtain ⟨ref, hreaches, he⟩ := h
  exact ⟨ref, hst.trans hreaches, he⟩

theorem fields_error_of_find {ref : ModelRef} {m : Model} {e : DefinitionError}
    (hm : F.find? ref = some m) (he : m.fields.mapM (·.field) = .error e) :
    F.fields ref = .error e := by
  rw [Family.fields, hm]
  exact he

/-- A walk is cut short only at a record that it meets and whose fields have no shapes. -/
theorem undefined_of_walkFrom {seen stack : List Shape} {e : DefinitionError}
    (h : (F.walkFrom seen stack).failure = some e) :
    ∃ ref, Shape.record ref ∈ (F.walkFrom seen stack).shapes ∧ F.fields ref = .error e := by
  induction seen, stack using walkFrom.induct F with
  | case1 seen =>
      rw [walkFrom] at h
      cases h
  | case2 seen ref rest hseen ih =>
      rw [walkFrom, dif_pos hseen] at h ⊢
      exact ih h
  | case3 seen ref rest hseen hnone ih =>
      rw [walkFrom_unknown hseen hnone] at h ⊢
      obtain ⟨r, hr, he⟩ := ih h
      exact ⟨r, List.mem_cons_of_mem _ hr, he⟩
  | case4 seen ref rest hseen m hm e' he =>
      rw [walkFrom_record hseen hm, he] at h ⊢
      cases h
      exact ⟨ref, List.mem_cons_self, fields_error_of_find hm he⟩
  | case5 seen ref rest hseen m hm fields hfields ih =>
      rw [walkFrom_record hseen hm, hfields] at h ⊢
      obtain ⟨r, hr, he⟩ := ih h
      exact ⟨r, List.mem_cons_of_mem _ hr, he⟩
  | case6 seen head rest hrecord hseen ih =>
      rw [walkFrom_seen hrecord hseen] at h ⊢
      exact ih h
  | case7 seen head rest hrecord hseen ih =>
      rw [walkFrom_new hrecord hseen] at h ⊢
      obtain ⟨r, hr, he⟩ := ih h
      exact ⟨r, List.mem_cons_of_mem _ hr, he⟩

/-- A walk is cut short only by a record that the shape reaches and whose fields have no shapes. -/
theorem undefined_of_walk {e : DefinitionError} (h : (F.walk s).failure = some e) :
    F.ReachesUndefined s e := by
  obtain ⟨ref, hmet, he⟩ := undefined_of_walkFrom h
  exact ⟨ref, reaches_of_walk hmet, he⟩

/-- Where a walk comes to its end, the fields of all records that it meets have shapes. -/
theorem defined_of_walkFrom {seen stack : List Shape}
    (hend : (F.walkFrom seen stack).failure = none) :
    ∀ ref, Shape.record ref ∈ (F.walkFrom seen stack).shapes →
      ∃ fields, F.fields ref = .ok fields := by
  induction seen, stack using walkFrom.induct F with
  | case1 seen =>
      rw [walkFrom]
      exact fun ref href => (List.not_mem_nil href).elim
  | case2 seen ref rest hseen ih =>
      rw [walkFrom, dif_pos hseen] at hend ⊢
      exact ih hend
  | case3 seen ref rest hseen hnone ih =>
      rw [walkFrom_unknown hseen hnone] at hend ⊢
      intro r hr
      rcases List.mem_cons.1 hr with heq | hr
      · cases heq
        exact ⟨[], by rw [fields, hnone]⟩
      · exact ih hend r hr
  | case4 seen ref rest hseen m hm e he =>
      rw [walkFrom_record hseen hm, he] at hend
      cases hend
  | case5 seen ref rest hseen m hm fields hfields ih =>
      rw [walkFrom_record hseen hm, hfields] at hend ⊢
      intro r hr
      rcases List.mem_cons.1 hr with heq | hr
      · cases heq
        exact ⟨fields, fields_of_find hm hfields⟩
      · exact ih hend r hr
  | case6 seen head rest hrecord hseen ih =>
      rw [walkFrom_seen hrecord hseen] at hend ⊢
      exact ih hend
  | case7 seen head rest hrecord hseen ih =>
      rw [walkFrom_new hrecord hseen] at hend ⊢
      intro r hr
      rcases List.mem_cons.1 hr with heq | hr
      · exact (hrecord r heq.symm).elim
      · exact ih hend r hr

/-- A walk comes to its end only if the fields of all records that are reached have shapes. -/
theorem not_undefined_of_walk (hend : (F.walk s).failure = none) {e : DefinitionError} :
    ¬ F.ReachesUndefined s e := by
  rintro ⟨ref, hreaches, he⟩
  obtain ⟨fields, hfields⟩ := defined_of_walkFrom hend ref (met_record_of_reaches hend hreaches)
  cases hfields.symm.trans he

/-! ### Nothing is met twice -/

/-- Shapes that are met once each, and that were not seen before. -/
structure Fresh (seen met : List Shape) : Prop where
  distinct : met.Pairwise fun t u => t.untyped ≠ u.untyped
  unseen : ∀ t ∈ met, t.untyped ∉ seen

theorem Fresh.nil (seen : List Shape) : Fresh seen [] := ⟨.nil, List.forall_mem_nil _⟩

/-- A shape that was not seen is met before shapes that are met once it is seen. -/
theorem Fresh.after {seen met : List Shape} (head : Shape) (h : Fresh (head.untyped :: seen) met)
    (hnew : head.untyped ∉ seen) : Fresh seen (head :: met) where
  distinct := List.pairwise_cons.2
    ⟨fun u hu heq => h.unseen u hu (heq ▸ List.mem_cons_self), h.distinct⟩
  unseen := List.forall_mem_cons.2
    ⟨hnew, fun u hu hmem => h.unseen u hu (List.mem_cons_of_mem _ hmem)⟩

/-- However often a shape is on the stack of a walk, it is met once at most, and not at all if it
was seen before. -/
theorem fresh_walkFrom (F : Family) (seen stack : List Shape) :
    Fresh seen (F.walkFrom seen stack).shapes := by
  induction seen, stack using walkFrom.induct F with
  | case1 seen =>
      rw [walkFrom]
      exact .nil seen
  | case2 seen ref rest hseen ih =>
      rw [walkFrom, dif_pos hseen]
      exact ih
  | case3 seen ref rest hseen hnone ih =>
      rw [walkFrom_unknown hseen hnone]
      exact Fresh.after (.record ref) ih (mt mem_refs.2 hseen)
  | case4 seen ref rest hseen m hm e he =>
      rw [walkFrom_record hseen hm, he]
      exact Fresh.after (.record ref) (.nil _) (mt mem_refs.2 hseen)
  | case5 seen ref rest hseen m hm fields hfields ih =>
      rw [walkFrom_record hseen hm, hfields]
      exact Fresh.after (.record ref) ih (mt mem_refs.2 hseen)
  | case6 seen head rest hrecord hseen ih =>
      rw [walkFrom_seen hrecord hseen]
      exact ih
  | case7 seen head rest hrecord hseen ih =>
      rw [walkFrom_new hrecord hseen]
      exact Fresh.after head ih hseen

/-- The first shape of a walk is the one that it is over. -/
theorem head_walk (F : Family) (s : Shape) : (F.walk s).shapes.head? = some s := by
  rw [walk]
  by_cases hrecord : ∃ ref, s = .record ref
  · obtain ⟨ref, rfl⟩ := hrecord
    cases hm : F.find? ref with
    | none =>
        rw [walkFrom_unknown List.not_mem_nil hm]
        rfl
    | some m =>
        rw [walkFrom_record List.not_mem_nil hm]
        cases m.fields.mapM (·.field) <;> rfl
  · rw [walkFrom_new (fun ref h => hrecord ⟨ref, h⟩) List.not_mem_nil]
    rfl

/-- A walk meets the shape that it is over first, nothing but what the shape reaches, and no shape
twice. Unless a record is reached whose fields have no shapes, which cuts it short, it comes to its
end and has met all that the shape reaches. -/
theorem walk_enumerates (F : Family) (s : Shape) :
    (F.walk s).shapes.head? = some s ∧ (∀ t ∈ (F.walk s).shapes, F.Reaches s t) ∧
      (F.walk s).shapes.Pairwise (fun t u => t.same u = false) ∧
      ((∀ e, ¬ F.ReachesUndefined s e) ∧ (F.walk s).failure = none ∧
          (∀ t, F.Reaches s t → ∃ u ∈ (F.walk s).shapes, u.same t = true) ∨
        ∃ e, F.ReachesUndefined s e ∧ (F.walk s).failure = some e) := by
  refine ⟨head_walk F s, fun t => reaches_of_walk, ?_, ?_⟩
  · refine (fresh_walkFrom F [] [s]).distinct.imp fun hne => ?_
    exact Bool.eq_false_iff.2 (mt Shape.same_iff.1 hne)
  · cases hfailure : (F.walk s).failure with
    | none =>
        refine .inl ⟨fun e => not_undefined_of_walk hfailure, rfl, fun t ht => ?_⟩
        obtain ⟨u, hu, heq⟩ := met_of_reaches hfailure ht
        exact ⟨u, hu, Shape.same_iff.2 heq⟩
    | some e => exact .inr ⟨e, undefined_of_walk hfailure, rfl⟩

end Family

end EditorProtocol
