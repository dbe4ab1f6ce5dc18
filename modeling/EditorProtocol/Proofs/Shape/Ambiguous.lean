import EditorProtocol.Proofs.Shape.Disjoint

/-!
What the overlap analysis reports of a shape: of the unions that the walk meets, those with two
alternatives that the rules do not set apart. It fails only if a record is reached whose fields have
no shapes. Alternatives of a union that is not reported are apart for a reason, which does not depend
on the order of two shapes: different builds or codes without a common one, found through
alternatives and the fields of records.
-/

namespace EditorProtocol

variable {F : Family} {a b s : Shape} {alternatives shapes unions : List Shape}

namespace Family

/-! ### Alternatives -/

theorem overlapsAny_iff {overlap : Bool} (h : F.overlapsAny a alternatives = .ok overlap) :
    overlap = false ↔ ∀ b ∈ alternatives, F.AreDisjoint a b := by
  induction alternatives with
  | nil =>
      rw [overlapsAny] at h
      cases h
      exact ⟨fun _ => List.forall_mem_nil _, fun _ => rfl⟩
  | cons b rest ih =>
      rw [overlapsAny] at h
      obtain ⟨first, hfirst, h⟩ := bind_eq_ok.1 h
      rw [List.forall_mem_cons, ← mayOverlap_iff hfirst]
      cases first with
      | true =>
          cases h
          exact ⟨nofun, fun h => nomatch h.1⟩
      | false => exact (ih h).trans (and_iff_right rfl).symm

/-- A list of alternatives is not ambiguous if the rules set each apart from the later ones. -/
theorem isAmbiguous_iff {ambiguous : Bool} (h : F.isAmbiguous alternatives = .ok ambiguous) :
    ambiguous = false ↔ alternatives.Pairwise F.AreDisjoint := by
  induction alternatives with
  | nil =>
      rw [isAmbiguous] at h
      cases h
      exact ⟨fun _ => .nil, fun _ => rfl⟩
  | cons a rest ih =>
      rw [isAmbiguous] at h
      obtain ⟨first, hfirst, h⟩ := bind_eq_ok.1 h
      rw [List.pairwise_cons, ← overlapsAny_iff hfirst]
      cases first with
      | true =>
          cases h
          exact ⟨nofun, fun h => nomatch h.1⟩
      | false => exact (ih h).trans (and_iff_right rfl).symm

theorem undefined_of_overlapsAny {e : DefinitionError}
    (h : F.overlapsAny a alternatives = .error e) :
    F.ReachesUndefined a e ∨ ∃ b ∈ alternatives, F.ReachesUndefined b e := by
  induction alternatives with
  | nil => cases h
  | cons b rest ih =>
      rw [overlapsAny] at h
      rcases bind_error_inv h with h | ⟨first, _, h⟩
      · exact (undefined_of_mayOverlap h).imp_right fun h => ⟨b, List.mem_cons_self, h⟩
      · cases first with
        | true => cases h
        | false => exact (ih h).imp_right fun ⟨c, hc, h⟩ => ⟨c, List.mem_cons_of_mem b hc, h⟩

theorem undefined_of_isAmbiguous {e : DefinitionError} (h : F.isAmbiguous alternatives = .error e) :
    ∃ a ∈ alternatives, F.ReachesUndefined a e := by
  induction alternatives with
  | nil => cases h
  | cons a rest ih =>
      rw [isAmbiguous] at h
      rcases bind_error_inv h with h | ⟨first, _, h⟩
      · rcases undefined_of_overlapsAny h with h | ⟨b, hb, h⟩
        · exact ⟨a, List.mem_cons_self, h⟩
        · exact ⟨b, List.mem_cons_of_mem a hb, h⟩
      · cases first with
        | true => cases h
        | false =>
            obtain ⟨b, hb, h⟩ := ih h
            exact ⟨b, List.mem_cons_of_mem a hb, h⟩

/-! ### Reports -/

/-- A shape is a union with two alternatives that the rules do not set apart. -/
inductive IsAmbiguous (F : Family) : Shape → Prop
  | union {alternatives : List Shape} (h : ¬ alternatives.Pairwise F.AreDisjoint) :
      IsAmbiguous F (.union alternatives)

theorem isAmbiguous_union : F.IsAmbiguous (.union alternatives) ↔
    ¬ alternatives.Pairwise F.AreDisjoint :=
  ⟨fun ⟨h⟩ => h, .union⟩

/-- Among shapes those are reported that are ambiguous unions. -/
theorem mem_ambiguousAmong (h : F.ambiguousAmong shapes = .ok unions) :
    s ∈ unions ↔ s ∈ shapes ∧ F.IsAmbiguous s := by
  induction shapes generalizing unions with
  | nil =>
      rw [ambiguousAmong] at h
      cases h
      exact ⟨nofun, fun h => nomatch h.1⟩
  | cons head rest ih =>
      cases head with
      | union alternatives =>
          rw [ambiguousAmong] at h
          obtain ⟨ambiguous, hambiguous, h⟩ := bind_eq_ok.1 h
          obtain ⟨others, hothers, h⟩ := bind_eq_ok.1 h
          have hhead := isAmbiguous_union.trans (not_congr (isAmbiguous_iff hambiguous).symm)
          cases h
          rw [List.mem_cons]
          cases ambiguous with
          | true =>
              rw [if_pos rfl, List.mem_cons, ih hothers]
              refine ⟨?_, fun ⟨hmem, hs⟩ => hmem.imp_right fun hmem => ⟨hmem, hs⟩⟩
              rintro (rfl | ⟨hmem, hs⟩)
              · exact ⟨.inl rfl, hhead.2 nofun⟩
              · exact ⟨.inr hmem, hs⟩
          | false =>
              rw [if_neg nofun, ih hothers]
              refine ⟨fun ⟨hmem, hs⟩ => ⟨.inr hmem, hs⟩, ?_⟩
              rintro ⟨rfl | hmem, hs⟩
              · exact (hhead.1 hs rfl).elim
              · exact ⟨hmem, hs⟩
      | _ =>
          rw [ih h, List.mem_cons]
          refine ⟨fun ⟨hmem, hs⟩ => ⟨.inr hmem, hs⟩, ?_⟩
          rintro ⟨rfl | hmem, hs⟩
          · cases hs
          · exact ⟨hmem, hs⟩

theorem undefined_of_ambiguousAmong {e : DefinitionError} (h : F.ambiguousAmong shapes = .error e) :
    ∃ s ∈ shapes, F.ReachesUndefined s e := by
  induction shapes with
  | nil => cases h
  | cons head rest ih =>
      cases head with
      | union alternatives =>
          rw [ambiguousAmong] at h
          rcases bind_error_inv h with h | ⟨_, _, h⟩
          · obtain ⟨a, ha, h⟩ := undefined_of_isAmbiguous h
            exact ⟨_, List.mem_cons_self, h.of_reaches (.part .refl ha)⟩
          · rcases bind_error_inv h with h | ⟨_, _, ⟨⟩⟩
            obtain ⟨s, hs, h⟩ := ih h
            exact ⟨s, List.mem_cons_of_mem _ hs, h⟩
      | _ =>
          obtain ⟨s, hs, h⟩ := ih h
          exact ⟨s, List.mem_cons_of_mem _ hs, h⟩

/-- Of what the walk meets those are reported that are ambiguous unions; the walk has come to its
end. -/
theorem ambiguousUnions_inv (h : F.ambiguousUnions s = .ok unions) :
    (F.walk s).failure = none ∧
      ∀ u, u ∈ unions ↔ u ∈ (F.walk s).shapes ∧ F.IsAmbiguous u := by
  rw [ambiguousUnions] at h
  obtain ⟨among, hamong, h⟩ := bind_eq_ok.1 h
  cases hfailure : (F.walk s).failure with
  | some e =>
      rw [hfailure] at h
      cases h
  | none =>
      rw [hfailure] at h
      cases h
      exact ⟨rfl, fun u => mem_ambiguousAmong hamong⟩

/-- Nothing is reported only for a record that is reached and whose fields have no shapes. -/
theorem undefined_of_ambiguousUnions {e : DefinitionError} (h : F.ambiguousUnions s = .error e) :
    F.ReachesUndefined s e := by
  rw [ambiguousUnions] at h
  rcases bind_error_inv h with h | ⟨_, _, h⟩
  · obtain ⟨t, ht, h⟩ := undefined_of_ambiguousAmong h
    exact h.of_reaches (reaches_of_walk ht)
  · cases hfailure : (F.walk s).failure with
    | some e' =>
        rw [hfailure] at h
        cases h
        exact undefined_of_walk hfailure
    | none =>
        rw [hfailure] at h
        cases h

end Family

/-! ### Reasons -/

/-- A finite reason for two shapes to share no value. -/
inductive Separate (F : Family) : Shape → Shape → Prop
  | symm {a b : Shape} (h : Separate F a b) : Separate F b a
  | build {a b : Shape} {i j : Build} (left : a.build? = some i) (right : b.build? = some j)
      (ne : i ≠ j) : Separate F a b
  | primitives {p q : Primitive} (incompatible : p.kind.compatible q.kind = false) :
      Separate F (.primitive p) (.primitive q)
  | listed {p : Primitive} {e : EnumShape} (unlisted : e.codes.overlapPrimitive p = false) :
      Separate F (.primitive p) (.enumeration e)
  | codes {d e : EnumShape} (disjoint : d.codes.overlap e.codes = false) :
      Separate F (.enumeration d) (.enumeration e)
  | nullable {inner b : Shape} (withheld : b.Withheld) (rest : Separate F inner b) :
      Separate F (.nullable inner) b
  | union {alternatives : List Shape} {b : Shape} (each : ∀ s ∈ alternatives, Separate F s b) :
      Separate F (.union alternatives) b
  | field {r s : ModelRef} {fs gs : List Field} {f g : Field} (left : F.fields r = .ok fs)
      (right : F.fields s = .ok gs) (mem : f ∈ fs) (shared : Field.find? gs f.wire = some g)
      (needed : (f.optional && g.optional) = false) (rest : Separate F f.shape g.shape) :
      Separate F (.record r) (.record s)
  | exclusive {r s : ModelRef} {fs gs : List Field} {f g : Field} (left : F.fields r = .ok fs)
      (right : F.fields s = .ok gs) (mem_left : f ∈ fs) (needed_left : f.optional = false)
      (lacks_right : Field.find? gs f.wire = none) (mem_right : g ∈ gs)
      (needed_right : g.optional = false) (lacks_left : Field.find? fs g.wire = none) :
      Separate F (.record r) (.record s)

namespace Separate

theorem of_isForeign (h : a.isForeign b = true) : Separate F a b := by
  unfold Shape.isForeign at h
  split at h
  case h_1 => exact .primitives (by simpa using h)
  case h_2 => exact .listed (by simpa using h)
  case h_3 => exact .symm (.listed (by simpa using h))
  case h_4 => exact .codes (by simpa using h)
  case h_5 =>
    obtain ⟨i, hi, h⟩ := (Option.any_eq_true _ _).1 h
    obtain ⟨j, hj, hne⟩ := (Option.any_eq_true _ _).1 h
    exact .build hi hj (Ne.symm (by simpa using hne))

/-- Shapes that are apart by the rules of the analysis are so for a reason. -/
theorem of_disjointBy {n : Nat} (h : F.DisjointBy n a b) : Separate F a b := by
  induction h with
  | foreign h => exact of_isForeign h
  | nullableLeft withheld _ ih => exact .nullable withheld ih
  | nullableRight withheld _ ih => exact .symm (.nullable withheld ih)
  | unionRight _ _ ih => exact .symm (.union ih)
  | unionLeft _ _ _ ih => exact .union ih
  | field _ left right mem shared needed _ ih => exact .field left right mem shared needed ih
  | fieldBack _ left right mem shared needed _ ih =>
      exact .symm (.field right left mem shared needed ih)
  | exclusive _ left right lacks_right lacks_left =>
      obtain ⟨f, hf, hneeded, hlacks⟩ := lacks_right
      obtain ⟨g, hg, hneeded', hlacks'⟩ := lacks_left
      exact .exclusive left right hf hneeded hlacks hg hneeded' hlacks'

end Separate

namespace Family

/-- All models of a family have shapes for their fields. -/
def Shaped (F : Family) : Prop :=
  ∀ m ∈ F.models, ∃ fields, m.fields.mapM (·.field) = .ok fields

theorem Shaped.not_undefined (hF : F.Shaped) {e : DefinitionError} :
    ¬ F.ReachesUndefined a e := by
  rintro ⟨ref, _, he⟩
  cases hm : F.find? ref with
  | none =>
      rw [fields, hm] at he
      cases he
  | some m =>
      obtain ⟨fields, hfields⟩ := hF m (mem_of_find? hm).1
      cases (fields_of_find hm hfields).symm.trans he

/-- Where all models have shapes for their fields, the analysis answers. -/
theorem Shaped.mayOverlap (hF : F.Shaped) (a b : Shape) (h : F.mayOverlap a b ≠ .ok false) :
    F.mayOverlap a b = .ok true := by
  have hanswers : ∃ answer, F.mayOverlap a b = .ok answer :=
    exists_mayOverlap fun _ => ⟨hF.not_undefined, hF.not_undefined⟩
  obtain ⟨answer, ha⟩ := hanswers
  cases answer with
  | true => exact ha
  | false => exact absurd ha h

theorem separate_of_mayOverlap (h : F.mayOverlap a b = .ok false) : Separate F a b :=
  (mayOverlap_iff h).1 rfl |>.elim fun _ => .of_disjointBy

/-- The alternatives of a union that the analysis does not report are apart for a reason. -/
theorem pairwise_of_unreported (h : F.ambiguousUnions s = .ok unions)
    (hmem : .union alternatives ∈ (F.walk s).shapes)
    (hunlisted : .union alternatives ∉ unions) : alternatives.Pairwise (Separate F) := by
  by_contra hambiguous
  refine hunlisted (((ambiguousUnions_inv h).2 _).2 ⟨hmem, .union fun hpairwise => ?_⟩)
  exact hambiguous (hpairwise.imp fun ⟨_, hn⟩ => .of_disjointBy hn)

end Family

end EditorProtocol
