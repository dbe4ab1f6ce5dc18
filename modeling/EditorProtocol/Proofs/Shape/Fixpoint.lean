import Mathlib.Order.FixedPoints
import EditorProtocol.Proofs.Shape.Disjoint

/-!
The rules of the overlap analysis without regard to the pairs that it has met, as one step: whether
two shapes overlap where a relation says which of their parts do. Among the relations that hold only
where such a step allows it there is a greatest one. It relates the shapes that no finite derivation
sets apart, and it is what the analysis answers: to take a pair that is met again to overlap is
neither too much nor too little.
-/

namespace EditorProtocol

variable {F : Family} {R S : Shape → Shape → Prop} {a b : Shape}

namespace Field

variable {fs gs : List Field}

/-- Where a field of a record and the one at the same key of another are not both optional, they are
related. -/
def Agree (R : Shape → Shape → Prop) (fs gs : List Field) : Prop :=
  ∀ f ∈ fs, ∀ g, find? gs f.wire = some g → (f.optional && g.optional) = false →
    R f.shape g.shape

theorem Agree.mono (h : Agree R fs gs) (hRS : ∀ a b, R a b → S a b) : Agree S fs gs :=
  fun f hf g hg hneeded => hRS _ _ (h f hf g hg hneeded)

end Field

theorem Shape.Withheld.plain (h : a.Withheld) : a.Plain := ⟨h.not_any, h.not_nullable⟩

namespace Family

/-! ### One step of the rules -/

/-- Whether the rules let two shapes overlap where a relation says which of their parts do. Two
records whose fields have no shapes are not set apart. -/
def Compatible (F : Family) (R : Shape → Shape → Prop) : Shape → Shape → Prop
  | .any, _ => True
  | _, .any => True
  | .nullable _, .nullable _ => True
  | .nullable inner, b => b = .null ∨ R inner b
  | a, .nullable inner => a = .null ∨ R inner a
  | a, .union alternatives => ∃ s ∈ alternatives, R s a
  | .union alternatives, b => ∃ s ∈ alternatives, R s b
  | .record r, .record s =>
    r = s ∨ ∀ fs gs, F.fields r = .ok fs → F.fields s = .ok gs →
      Field.Agree R fs gs ∧ Field.Agree R gs fs ∧
        ¬ (Field.Exclusive fs gs ∧ Field.Exclusive gs fs)
  | a, b => a.isForeign b = false

namespace Compatible

theorem nullable_left {inner : Shape} (h : b.Plain) :
    F.Compatible R (.nullable inner) b ↔ b = .null ∨ R inner b := by
  rw [Compatible]
  · exact h.not_any
  · exact h.not_nullable

theorem nullable_right {inner : Shape} (h : a.Plain) :
    F.Compatible R a (.nullable inner) ↔ a = .null ∨ R inner a := by
  rw [Compatible]
  · exact h.not_any
  · exact h.not_nullable

theorem union_right {alternatives : List Shape} (h : a.Plain) :
    F.Compatible R a (.union alternatives) ↔ ∃ s ∈ alternatives, R s a := by
  rw [Compatible]
  · exact h.not_any
  · exact h.not_nullable

theorem union_left {alternatives : List Shape} (h : b.Plain)
    (single : ∀ others, b ≠ .union others) :
    F.Compatible R (.union alternatives) b ↔ ∃ s ∈ alternatives, R s b := by
  rw [Compatible]
  · exact h.not_any
  · exact h.not_nullable
  · exact single

/-- Shapes that are told apart as they are do not overlap, whatever their parts do. -/
theorem isForeign_eq (h : F.Compatible R a b) : a.isForeign b = false := by
  cases a <;> cases b <;> first | exact h | rfl

/-- The more parts overlap, the more shapes do. -/
theorem mono (hRS : ∀ a b, R a b → S a b) (a b : Shape) (h : F.Compatible R a b) :
    F.Compatible S a b := by
  revert h
  fun_cases Compatible F R a b with
  | case1 => exact id
  | case2 a hany =>
      intro _
      rw [Compatible]
      · trivial
      · exact hany
  | case3 => exact id
  | case4 b inner hany hnullable =>
      rw [nullable_left ⟨hany, hnullable⟩]
      exact Or.imp_right (hRS _ _)
  | case5 a inner hany hnullable =>
      rw [nullable_right ⟨hany, hnullable⟩]
      exact Or.imp_right (hRS _ _)
  | case6 a alternatives hany hnullable =>
      rw [union_right ⟨hany, hnullable⟩]
      exact fun ⟨s, hs, h⟩ => ⟨s, hs, hRS _ _ h⟩
  | case7 b alternatives hany hnullable hunion =>
      rw [union_left ⟨hany, hnullable⟩ hunion]
      exact fun ⟨s, hs, h⟩ => ⟨s, hs, hRS _ _ h⟩
  | case8 r s =>
      refine Or.imp_right fun h fs gs hfs hgs => ?_
      obtain ⟨hagree, hagree', hexclusive⟩ := h fs gs hfs hgs
      exact ⟨hagree.mono hRS, hagree'.mono hRS, hexclusive⟩
  | case9 =>
      intro h
      rw [Compatible]
      · exact h
      all_goals assumption

end Compatible

/-- The step as an operator on relations between shapes. -/
def overlapRules (F : Family) : (Shape → Shape → Prop) →o (Shape → Shape → Prop) :=
  ⟨F.Compatible, fun _ _ hRS => Compatible.mono hRS⟩

/-! ### Derivations and the greatest relation -/

/-- Shapes that are not apart have parts that are not apart. -/
theorem compatible_of_not_disjoint (h : ¬ F.AreDisjoint a b) :
    F.Compatible (fun a b => ¬ F.AreDisjoint a b) a b := by
  revert h
  fun_cases Compatible F (fun a b => ¬ F.AreDisjoint a b) a b with
  | case1 => exact fun _ => trivial
  | case2 => exact fun _ => trivial
  | case3 => exact fun _ => trivial
  | case4 b inner hany hnullable =>
      intro h
      refine or_iff_not_imp_left.2 fun hnull ⟨n, hn⟩ => h ⟨n, ?_⟩
      exact .nullableLeft ⟨hany, hnullable, hnull⟩ hn
  | case5 a inner hany hnullable =>
      intro h
      refine or_iff_not_imp_left.2 fun hnull ⟨n, hn⟩ => h ⟨n, ?_⟩
      exact .nullableRight ⟨hany, hnullable, hnull⟩ hn
  | case6 a alternatives hany hnullable =>
      intro h
      by_contra hnone
      obtain ⟨n, hn⟩ := exists_common_disjoint fun s hs => not_not.1 fun hsa => hnone ⟨s, hs, hsa⟩
      exact h ⟨n, .unionRight ⟨hany, hnullable⟩ hn⟩
  | case7 b alternatives hany hnullable hunion =>
      intro h
      by_contra hnone
      obtain ⟨n, hn⟩ := exists_common_disjoint fun s hs => not_not.1 fun hsb => hnone ⟨s, hs, hsb⟩
      exact h ⟨n, .unionLeft ⟨hany, hnullable⟩ hunion hn⟩
  | case8 r s =>
      intro h
      refine or_iff_not_imp_left.2 fun hne fs gs hfs hgs => ⟨?_, ?_, fun hexclusive => ?_⟩
      · exact fun f hf g hg hneeded hfg =>
          h (areDisjoint_records hne hfs hgs (.inl ⟨f, hf, g, hg, hneeded, hfg⟩))
      · exact fun g hg f hf hneeded hgf =>
          h (areDisjoint_records hne hfs hgs (.inr (.inl ⟨g, hg, f, hf, hneeded, hgf⟩)))
      · exact h (areDisjoint_records hne hfs hgs (.inr (.inr hexclusive)))
  | case9 => exact fun h => Bool.eq_false_iff.2 fun hforeign => h ⟨0, .foreign hforeign⟩

/-- A relation that holds only where the rules allow it does not hold of shapes that are apart. -/
theorem DisjointBy.not_related {n : Nat} (h : F.DisjointBy n a b)
    (hR : ∀ a b, R a b → F.Compatible R a b) : ¬ R a b := by
  intro hab
  have hstep := hR _ _ hab
  induction h with
  | foreign h => cases h.symm.trans hstep.isForeign_eq
  | nullableLeft withheld _ ih =>
      have hinner := ((Compatible.nullable_left withheld.plain).1 hstep).resolve_left
        withheld.not_null
      exact ih hinner (hR _ _ hinner)
  | nullableRight withheld _ ih =>
      have hinner := ((Compatible.nullable_right withheld.plain).1 hstep).resolve_left
        withheld.not_null
      exact ih hinner (hR _ _ hinner)
  | unionRight plain _ ih =>
      obtain ⟨s, hs, hsa⟩ := (Compatible.union_right plain).1 hstep
      exact ih s hs hsa (hR _ _ hsa)
  | unionLeft plain single _ ih =>
      obtain ⟨s, hs, hsb⟩ := (Compatible.union_left plain single).1 hstep
      exact ih s hs hsb (hR _ _ hsb)
  | field ne left right mem shared needed _ ih =>
      obtain ⟨hagree, _⟩ := hstep.resolve_left ne _ _ left right
      have hfg := hagree _ mem _ shared needed
      exact ih hfg (hR _ _ hfg)
  | fieldBack ne left right mem shared needed _ ih =>
      obtain ⟨_, hagree, _⟩ := hstep.resolve_left ne _ _ left right
      have hgf := hagree _ mem _ shared needed
      exact ih hgf (hR _ _ hgf)
  | exclusive ne left right lacks_right lacks_left =>
      obtain ⟨_, _, hexclusive⟩ := hstep.resolve_left ne _ _ left right
      exact hexclusive ⟨lacks_right, lacks_left⟩

/-- The greatest relation that the rules keep holds of the shapes that are not apart. -/
theorem gfp_overlapRules : F.overlapRules.gfp a b ↔ ¬ F.AreDisjoint a b := by
  constructor
  · rintro hab ⟨n, hn⟩
    have hstep : ∀ a b, F.overlapRules.gfp a b → F.Compatible F.overlapRules.gfp a b :=
      (F.overlapRules.map_gfp).ge
    exact hn.not_related hstep hab
  · have hle : (fun a b => ¬ F.AreDisjoint a b) ≤ F.overlapRules.gfp :=
      F.overlapRules.le_gfp fun _ _ => compatible_of_not_disjoint
    exact hle a b

/-- The analysis comes to an answer, unless a record is reached whose fields have no shapes. It sets
two shapes apart if and only if some finite derivation does by the rules without regard to the pairs
that were met; so what it takes to overlap is the greatest relation that the rules keep. -/
theorem overlap_greatest (F : Family) (a b : Shape) :
    (∃ overlap, F.overlapFrom [] a b = .ok overlap ∧ (overlap = false ↔ F.AreDisjoint a b) ∧
        (overlap = true ↔ F.overlapRules.gfp a b)) ∨
      ∃ e, F.overlapFrom [] a b = .error e ∧
        (F.ReachesUndefined a e ∨ F.ReachesUndefined b e) := by
  cases h : F.overlapFrom [] a b with
  | error e => exact .inr ⟨e, rfl, undefined_of_mayOverlap h⟩
  | ok overlap =>
      have hrules : overlap = false ↔ F.AreDisjoint a b := mayOverlap_iff h
      refine .inl ⟨overlap, rfl, hrules, ?_⟩
      rw [gfp_overlapRules, ← hrules, Bool.not_eq_false]

end Family

end EditorProtocol
