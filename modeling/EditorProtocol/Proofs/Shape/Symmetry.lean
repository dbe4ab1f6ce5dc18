import EditorProtocol.Proofs.Shape.Ambiguous

/-!
Where the overlap analysis does not depend on the order of its two shapes. The rules set two shapes
apart in either order for the same reasons, unless both are unions: then each alternative of the
second is compared with the first as a whole. What the rules say of two unions comes down to their
cores, the shapes that are left when all alternatives are taken apart and null is passed over. Cores
may be swapped, and shapes are apart again if their cores are, but for null among the alternatives
of one union and a nullable alternative of the other, which are compared in one order and passed
over in the other.
-/

namespace EditorProtocol

variable {F : Family} {n : Nat} {a b p q : Shape}

/-! ### Scalars -/

theorem PrimitiveKind.compatible_comm (j k : PrimitiveKind) :
    j.compatible k = k.compatible j := by
  cases j <;> cases k <;> rfl

theorem Codes.overlap_comm (c d : Codes) : c.overlap d = d.overlap c := by
  rw [Bool.eq_iff_iff]
  cases c <;> cases d <;> simp [overlap, and_comm]

theorem Shape.isForeign_symm (h : a.isForeign b = true) : b.isForeign a = true := by
  cases a <;> cases b <;>
    simp_all [isForeign, build?, PrimitiveKind.compatible_comm, Codes.overlap_comm]

namespace Shape

/-! ### Null among alternatives -/

/-- Null is a shape by itself or among the alternatives of one. -/
inductive HasNull : Shape → Prop
  | null : HasNull .null
  | inner {inner : Shape} (h : HasNull inner) : HasNull (.nullable inner)
  | alternative {alternatives : List Shape} {s : Shape} (mem : s ∈ alternatives) (h : HasNull s) :
      HasNull (.union alternatives)

/-- A shape is nullable or has a nullable alternative. -/
inductive HasNullable : Shape → Prop
  | nullable (inner : Shape) : HasNullable (.nullable inner)
  | alternative {alternatives : List Shape} {s : Shape} (mem : s ∈ alternatives)
      (h : HasNullable s) : HasNullable (.union alternatives)

/-- One of two shapes has null where the other one is nullable. -/
def MeetsNull (a b : Shape) : Prop :=
  a.HasNull ∧ b.HasNullable ∨ a.HasNullable ∧ b.HasNull

theorem MeetsNull.symm (h : MeetsNull a b) : MeetsNull b a := by
  rcases h with ⟨hnull, hnullable⟩ | ⟨hnullable, hnull⟩
  · exact .inr ⟨hnullable, hnull⟩
  · exact .inl ⟨hnull, hnullable⟩

theorem MeetsNull.alternative {alternatives : List Shape} (h : MeetsNull a b)
    (mem : a ∈ alternatives) : MeetsNull (.union alternatives) b :=
  h.imp (.imp_left (.alternative mem)) (.imp_left (.alternative mem))

theorem MeetsNull.inner (h : MeetsNull a b) : MeetsNull (.nullable a) b :=
  h.imp (.imp_left .inner) (.imp_left fun _ => .nullable a)

def isUnion : Shape → Bool
  | .union _ => true
  | _ => false

/-- Two unions, one with null among its alternatives and the other with a nullable alternative. -/
structure NullClash (a b : Shape) : Prop where
  left : a.isUnion = true
  right : b.isUnion = true
  meets : a.MeetsNull b

theorem NullClash.symm (h : NullClash a b) : NullClash b a := ⟨h.right, h.left, h.meets.symm⟩

theorem plain_or (s : Shape) : s = .any ∨ (∃ inner, s = .nullable inner) ∨ s.Plain := by
  cases s with
  | any => exact .inl rfl
  | nullable inner => exact .inr (.inl ⟨inner, rfl⟩)
  | _ => exact .inr (.inr ⟨nofun, nofun⟩)

theorem union_or (s : Shape) : (∃ alternatives, s = .union alternatives) ∨ s.isUnion = false := by
  cases s with
  | union alternatives => exact .inl ⟨alternatives, rfl⟩
  | _ => exact .inr rfl

/-! ### Cores -/

/-- A shape is left of another one when alternatives are taken apart and null is passed over. -/
inductive HasCore : Shape → Shape → Prop
  | self {p : Shape} (single : p.isUnion = false) (whole : p.isNullable = false) : HasCore p p
  | inner {inner p : Shape} (h : HasCore inner p) : HasCore (.nullable inner) p
  | alternative {alternatives : List Shape} {s p : Shape} (mem : s ∈ alternatives)
      (h : HasCore s p) : HasCore (.union alternatives) p

/-- What is no union and not looked through is a core. -/
theorem Plain.hasCore (h : p.Plain) (single : p.isUnion = false) : p.HasCore p := by
  refine .self single ?_
  cases p with
  | nullable inner => exact (h.not_nullable inner rfl).elim
  | _ => rfl

namespace HasCore

theorem single (h : a.HasCore p) : p.isUnion = false := by
  induction h with
  | self single => exact single
  | inner _ ih => exact ih
  | alternative _ _ ih => exact ih

/-- A shape whose values have a build in common is its own core. -/
theorem eq_of_build {i : Build} (h : a.HasCore p) (ha : a.build? = some i) : p = a := by
  cases h with
  | self => rfl
  | inner => cases ha
  | alternative => cases ha

theorem nullable_inv {inner : Shape} (h : (nullable inner).HasCore p) : inner.HasCore p := by
  cases h with
  | self _ whole => cases whole
  | inner h => exact h

theorem union_inv {alternatives : List Shape} (h : (union alternatives).HasCore p) :
    ∃ s ∈ alternatives, s.HasCore p := by
  cases h with
  | self single => cases single
  | alternative mem h => exact ⟨_, mem, h⟩

end HasCore

end Shape

namespace Family

/-- No union that a shape reaches is without alternatives; those that are made have two at least. -/
def Populated (F : Family) (s : Shape) : Prop :=
  ∀ alternatives, F.Reaches s (.union alternatives) → alternatives ≠ []

theorem Populated.of_reaches (h : F.Populated a) (hab : F.Reaches a b) : F.Populated b :=
  fun alternatives hb => h alternatives (hab.trans hb)

theorem Populated.part (h : F.Populated a) (hb : b ∈ a.innerParts) : F.Populated b :=
  h.of_reaches (.part .refl hb)

theorem Populated.exists_core : ∀ {a : Shape}, F.Populated a → ∃ p, a.HasCore p
  | .union alternatives, h => by
      obtain ⟨s, hs⟩ := List.exists_mem_of_ne_nil _ (h alternatives .refl)
      obtain ⟨p, hp⟩ := (h.part hs).exists_core
      exact ⟨p, .alternative hs hp⟩
  | .nullable inner, h => by
      have hpart : F.Populated inner := h.part List.mem_cons_self
      obtain ⟨p, hp⟩ := hpart.exists_core
      exact ⟨p, .inner hp⟩
  | .primitive _, _ => ⟨_, .self rfl rfl⟩
  | .enumeration _, _ => ⟨_, .self rfl rfl⟩
  | .record _, _ => ⟨_, .self rfl rfl⟩
  | .sequence _, _ => ⟨_, .self rfl rfl⟩
  | .any, _ => ⟨_, .self rfl rfl⟩
termination_by a => sizeOf a
decreasing_by
  · exact Shape.sizeOf_lt_of_mem hs
  · simp

/-! ### Swapping two shapes -/

namespace DisjointBy

/-- The rules read the same in the other order, but for two unions. -/
theorem swap (h : F.DisjointBy n a b) (single : a.isUnion = false ∨ b.isUnion = false) :
    F.DisjointBy n b a := by
  cases h with
  | foreign h => exact .foreign (Shape.isForeign_symm h)
  | nullableLeft withheld rest => exact .nullableRight withheld rest
  | nullableRight withheld rest => exact .nullableLeft withheld rest
  | unionRight plain each =>
      refine .unionLeft plain ?_ each
      rintro others rfl
      rcases single with h | h <;> cases h
  | unionLeft plain _ each => exact .unionRight plain each
  | field ne left right mem shared needed rest =>
      exact .fieldBack ne.symm right left mem shared needed rest
  | fieldBack ne left right mem shared needed rest =>
      exact .field ne.symm right left mem shared needed rest
  | exclusive ne left right lacks_right lacks_left =>
      exact .exclusive ne.symm right left lacks_left lacks_right

/-- Shapes that are apart have cores that are apart. -/
theorem cores (h : F.DisjointBy n a b) (hp : a.HasCore p) (hq : b.HasCore q) :
    F.DisjointBy n p q := by
  induction h generalizing p q with
  | foreign h =>
      obtain ⟨⟨i, hi⟩, j, hj⟩ := Shape.exists_builds h
      cases hp.eq_of_build hi
      cases hq.eq_of_build hj
      exact .foreign h
  | nullableLeft _ _ ih => exact ih hp.nullable_inv hq
  | nullableRight _ _ ih => exact (ih hq.nullable_inv hp).swap (.inl hq.single)
  | unionRight _ _ ih =>
      obtain ⟨s, hs, hq⟩ := hq.union_inv
      exact (ih s hs hq hp).swap (.inl hq.single)
  | unionLeft _ _ _ ih =>
      obtain ⟨s, hs, hp⟩ := hp.union_inv
      exact ih s hs hp hq
  | field ne left right mem shared needed rest =>
      cases hp.eq_of_build rfl
      cases hq.eq_of_build rfl
      exact .field ne left right mem shared needed rest
  | fieldBack ne left right mem shared needed rest =>
      cases hp.eq_of_build rfl
      cases hq.eq_of_build rfl
      exact .fieldBack ne left right mem shared needed rest
  | exclusive ne left right lacks_right lacks_left =>
      cases hp.eq_of_build rfl
      cases hq.eq_of_build rfl
      exact .exclusive ne left right lacks_right lacks_left

/-- Shapes whose cores are apart are apart, where null is not passed over. -/
theorem of_cores {a b : Shape} (ha : F.Populated a) (hb : F.Populated b) (hplain : b.Plain)
    (hclash : ¬ a.MeetsNull b)
    (hcores : ∀ p q, a.HasCore p → b.HasCore q → F.DisjointBy n p q) : F.DisjointBy n a b := by
  rcases a.plain_or with rfl | ⟨inner, rfl⟩ | haplain
  · obtain ⟨q, hq⟩ := hb.exists_core
    exact (not_any_left (hcores .any q (.self rfl rfl) hq)).elim
  · have hnull : b ≠ .null := by
      rintro rfl
      exact hclash (.inr ⟨.nullable inner, .null⟩)
    refine .nullableLeft ⟨hplain.not_any, hplain.not_nullable, hnull⟩ ?_
    exact of_cores (ha.part List.mem_cons_self) hb hplain (mt .inner hclash)
      fun p q hp => hcores p q hp.inner
  · rcases b.union_or with ⟨alternatives, rfl⟩ | hbsingle
    · refine .unionRight haplain fun s hs => ?_
      refine of_cores (hb.part hs) ha haplain (fun h => hclash (h.alternative hs).symm) ?_
      exact fun p q hp hq => (hcores q p hq (.alternative hs hp)).swap (.inl hq.single)
    · rcases a.union_or with ⟨alternatives, rfl⟩ | hasingle
      · refine .unionLeft hplain (fun others h => ?_) fun s hs => ?_
        · rw [h] at hbsingle
          cases hbsingle
        · exact of_cores (ha.part hs) hb hplain (fun h => hclash (h.alternative hs))
            fun p q hp => hcores p q (.alternative hs hp)
      · exact hcores a b (haplain.hasCore hasingle) (hplain.hasCore hbsingle)
termination_by sizeOf a + sizeOf b
decreasing_by
  all_goals subst_vars
  · simp
  · have := Shape.sizeOf_lt_of_mem hs
    omega
  · have := Shape.sizeOf_lt_of_mem hs
    omega

/-- The rules set two shapes apart in either order, where null is not passed over. -/
theorem symm (h : F.DisjointBy n a b) (ha : F.Populated a) (hb : F.Populated b)
    (hclash : ¬ a.NullClash b) : F.DisjointBy n b a := by
  rcases a.union_or with ⟨alternatives, rfl⟩ | hasingle
  · rcases b.union_or with ⟨others, rfl⟩ | hbsingle
    · refine of_cores hb ha ⟨nofun, nofun⟩ (fun hc => hclash ⟨rfl, rfl, hc.symm⟩) ?_
      exact fun p q hp hq => (h.cores hq hp).swap (.inl hq.single)
    · exact h.swap (.inr hbsingle)
  · exact h.swap (.inl hasingle)

end DisjointBy

/-- Two shapes that the rules set apart are apart in either order. -/
theorem AreDisjoint.symm (h : F.AreDisjoint a b) (ha : F.Populated a) (hb : F.Populated b)
    (hclash : ¬ a.NullClash b) : F.AreDisjoint b a := by
  obtain ⟨n, hn⟩ := h
  exact ⟨n, hn.symm ha hb hclash⟩

/-- Two answers of the analysis, for two shapes in either order, are the same. -/
theorem mayOverlap_swap {x y : Bool} (ha : F.Populated a) (hb : F.Populated b)
    (hclash : ¬ a.NullClash b) (hx : F.mayOverlap a b = .ok x) (hy : F.mayOverlap b a = .ok y) :
    x = y := by
  have hcomm : x = false ↔ y = false := by
    rw [mayOverlap_iff hx, mayOverlap_iff hy]
    exact ⟨fun h => h.symm ha hb hclash, fun h => h.symm hb ha (mt .symm hclash)⟩
  cases x <;> cases y <;> simp_all

end Family

end EditorProtocol
