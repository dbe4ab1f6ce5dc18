import Mathlib.Data.List.Perm.Basic
import EditorProtocol.Proofs.Codec.Decoding
import EditorProtocol.Proofs.Shape.Symmetry

/-!
The order in which alternatives are declared. Two shapes are alike if one is the other with the
alternatives of unions in another order, and two families if the fields of their records are. The
rules of the overlap analysis set alike shapes apart alike, and what one shape reaches another one
reaches, too; so what is reported of a shape does not depend on the order of alternatives, neither
in the shape nor in the models of the family, unless null is passed over in one of the two orders.
-/

namespace EditorProtocol

variable {F G : Family} {a b c d s t u : Shape}

/-! ### Alike shapes -/

/-- Two shapes that differ in the order of alternatives, and in the members of enumerations. -/
inductive Shape.Alike : Shape → Shape → Prop
  | primitive (p : Primitive) : Alike (.primitive p) (.primitive p)
  | enumeration {d e : EnumShape} (h : d.untyped = e.untyped) :
      Alike (.enumeration d) (.enumeration e)
  | record (ref : ModelRef) : Alike (.record ref) (.record ref)
  | union {alternatives reordered others : List Shape} (order : alternatives.Perm reordered)
      (length_eq : reordered.length = others.length)
      (each : ∀ s t, (s, t) ∈ reordered.zip others → Alike s t) :
      Alike (.union alternatives) (.union others)
  | sequence {s t : Shape} (h : Alike s t) : Alike (.sequence s) (.sequence t)
  | nullable {s t : Shape} (h : Alike s t) : Alike (.nullable s) (.nullable t)
  | any : Alike .any .any

namespace Shape.Alike

variable {alternatives others : List Shape}

theorem of_order {reordered : List Shape} (order : alternatives.Perm reordered)
    (each : List.Forall₂ Alike reordered others) :
    Alike (.union alternatives) (.union others) :=
  .union order each.length_eq fun _ _ => List.forall₂_zip each

theorem union_inv (h : Alike (.union alternatives) t) :
    ∃ reordered others, t = .union others ∧ alternatives.Perm reordered ∧
      List.Forall₂ Alike reordered others := by
  cases h with
  | union order length_eq each =>
      exact ⟨_, _, rfl, order, List.forall₂_iff_zip.2 ⟨length_eq, each _ _⟩⟩

theorem symm (h : s.Alike t) : t.Alike s := by
  induction h with
  | primitive p => exact .primitive p
  | enumeration h => exact .enumeration h.symm
  | record ref => exact .record ref
  | @union _ reordered others order length_eq _ ih =>
      -- The other alternatives are put into the order of the first.
      have hback : List.Forall₂ (fun s t => Alike t s) reordered others :=
        List.forall₂_iff_zip.2 ⟨length_eq, ih _ _⟩
      obtain ⟨restored, hrestored, hperm⟩ := List.perm_comp_forall₂ order hback
      exact .of_order hperm.symm hrestored.flip
  | sequence _ ih => exact .sequence ih
  | nullable _ ih => exact .nullable ih
  | any => exact .any

theorem forall₂_of_untyped {R : Shape → Shape → Prop} {xs ys zs : List Shape}
    (h : List.Forall₂ (fun s t => ∀ u, u.untyped = t.untyped → R s u) xs ys)
    (hzs : zs.map Shape.untyped = ys.map Shape.untyped) : List.Forall₂ R xs zs := by
  induction h generalizing zs with
  | nil =>
      cases List.map_eq_nil_iff.1 hzs
      exact .nil
  | cons hxy _ ih =>
      obtain ⟨z, rest, rfl, hz, hrest⟩ := List.map_eq_cons_iff.1 hzs
      exact .cons (hxy z hz) (ih hrest)

/-- What differs in the members of its enumerations only stays alike. -/
theorem of_untyped (h : s.Alike t) (huntyped : u.untyped = t.untyped) : s.Alike u := by
  induction h generalizing u with
  | enumeration h =>
      cases u with
      | enumeration e => exact .enumeration (h.trans (by injection huntyped.symm))
      | _ => cases huntyped
  | @union alternatives reordered others order length_eq each ih =>
      cases u with
      | union shapes =>
          have hshapes : shapes.map Shape.untyped = others.map Shape.untyped := by
            rw [← Family.untypedAll_eq_map, ← Family.untypedAll_eq_map]
            injection huntyped
          exact .of_order order (forall₂_of_untyped
            (List.forall₂_iff_zip.2 ⟨length_eq, fun hmem _ => ih _ _ hmem⟩) hshapes)
      | _ => cases huntyped
  | sequence _ ih =>
      cases u with
      | sequence element => exact .sequence (ih (by injection huntyped))
      | _ => cases huntyped
  | nullable _ ih =>
      cases u with
      | nullable inner => exact .nullable (ih (by injection huntyped))
      | _ => cases huntyped
  | primitive p =>
      cases u with
      | primitive q =>
          cases huntyped
          exact .primitive p
      | _ => cases huntyped
  | record ref =>
      cases u with
      | record r =>
          cases huntyped
          exact .record ref
      | _ => cases huntyped
  | any =>
      cases u with
      | any => exact .any
      | _ => cases huntyped

/-- Each alternative has one that it is alike with. -/
theorem alternative (h : Alike (.union alternatives) (.union others)) (hs : s ∈ alternatives) :
    ∃ t ∈ others, s.Alike t := by
  obtain ⟨reordered, _, heq, order, each⟩ := h.union_inv
  cases heq
  exact exists_of_forall₂ each.flip (order.mem_iff.1 hs)

end Shape.Alike

/-! ### Alike families -/

/-- Two fields that answer to one key, are both needed or both optional, and have alike shapes. -/
structure Field.Alike (f g : Field) : Prop where
  wire : f.wire = g.wire
  optional : f.optional = g.optional
  shape : f.shape.Alike g.shape

theorem Field.Alike.symm {f g : Field} (h : f.Alike g) : g.Alike f :=
  ⟨h.wire.symm, h.optional.symm, h.shape.symm⟩

/-- The fields of a record in two families: alike ones, or none with shapes in either. -/
inductive FieldsAlike :
    Except DefinitionError (List Field) → Except DefinitionError (List Field) → Prop
  | ok {fs gs : List Field} (h : List.Forall₂ Field.Alike fs gs) : FieldsAlike (.ok fs) (.ok gs)
  | error (d e : DefinitionError) : FieldsAlike (.error d) (.error e)

theorem FieldsAlike.symm {x y : Except DefinitionError (List Field)} (h : FieldsAlike x y) :
    FieldsAlike y x := by
  cases h with
  | ok h => exact .ok (h.flip.imp fun _ _ => Field.Alike.symm)
  | error d e => exact .error e d

namespace Field

variable {fs fs' gs gs' : List Field}

/-- The fields at one key of alike lists. -/
theorem find?_alike (h : List.Forall₂ Alike fs gs) (key : String) :
    find? fs key = none ∧ find? gs key = none ∨
      ∃ f g, find? fs key = some f ∧ find? gs key = some g ∧ f.Alike g := by
  induction h with
  | nil => exact .inl ⟨rfl, rfl⟩
  | @cons f g _ _ hfg _ ih =>
      rw [find?, find?, ← hfg.wire]
      by_cases hkey : f.wire = key
      · rw [if_pos hkey, if_pos hkey]
        exact .inr ⟨f, g, rfl, rfl, hfg⟩
      · rwa [if_neg hkey, if_neg hkey]

theorem find?_none_alike {key : String} (h : List.Forall₂ Alike fs gs)
    (hnone : find? fs key = none) : find? gs key = none := by
  rcases find?_alike h key with ⟨_, h⟩ | ⟨f, _, hf, _⟩
  · exact h
  · cases hnone.symm.trans hf

theorem find?_some_alike {key : String} {f : Field} (h : List.Forall₂ Alike fs gs)
    (hsome : find? fs key = some f) : ∃ g, find? gs key = some g ∧ f.Alike g := by
  rcases find?_alike h key with ⟨hnone, _⟩ | ⟨f', g, hf, hg, hfg⟩
  · cases hnone.symm.trans hsome
  · cases hf.symm.trans hsome
    exact ⟨g, hg, hfg⟩

theorem Exclusive.alike (h : Exclusive fs gs) (hfs : List.Forall₂ Alike fs fs')
    (hgs : List.Forall₂ Alike gs gs') : Exclusive fs' gs' := by
  obtain ⟨f, hf, hneeded, hlacks⟩ := h
  obtain ⟨f', hf', halike⟩ := exists_of_forall₂ hfs.flip hf
  refine ⟨f', hf', halike.optional ▸ hneeded, ?_⟩
  rw [← halike.wire]
  exact find?_none_alike hgs hlacks

end Field

/-- Two families whose records have alike fields. -/
def Family.Alike (F G : Family) : Prop := ∀ ref, FieldsAlike (F.fields ref) (G.fields ref)

namespace Family

theorem Alike.symm (h : F.Alike G) : G.Alike F := fun ref => (h ref).symm

theorem Alike.fields (h : F.Alike G) {ref : ModelRef} {fs : List Field}
    (hfs : F.fields ref = .ok fs) :
    ∃ gs, G.fields ref = .ok gs ∧ List.Forall₂ Field.Alike fs gs := by
  have hfields := h ref
  rw [hfs] at hfields
  generalize G.fields ref = other at hfields
  cases hfields with
  | ok h => exact ⟨_, rfl, h⟩

theorem Alike.fields_error (h : F.Alike G) {ref : ModelRef} {e : DefinitionError}
    (he : F.fields ref = .error e) : ∃ e', G.fields ref = .error e' := by
  have hfields := h ref
  rw [he] at hfields
  generalize G.fields ref = other at hfields
  cases hfields with
  | error _ e' => exact ⟨e', rfl⟩

/-- What a shape reaches, an alike shape reaches in an alike family. -/
theorem Reaches.alike (hFG : F.Alike G) (hst : s.Alike t) (h : F.Reaches s a) :
    ∃ b, G.Reaches t b ∧ a.Alike b := by
  induction h with
  | refl => exact ⟨t, .refl, hst⟩
  | @part u v _ hpart ih =>
      obtain ⟨w, hw, huw⟩ := ih
      have hparts : ∃ x ∈ w.innerParts, v.Alike x := by
        cases huw with
        | union order length_eq each =>
            exact Shape.Alike.alternative (.union order length_eq each) hpart
        | sequence h | nullable h =>
            cases List.mem_singleton.1 hpart
            exact ⟨_, List.mem_cons_self, h⟩
        | _ => cases hpart
      obtain ⟨x, hx, hvx⟩ := hparts
      exact ⟨x, hw.part hx, hvx⟩
  | @field ref fs f _ fields_eq mem ih =>
      obtain ⟨w, hw, href⟩ := ih
      cases href
      obtain ⟨gs, hgs, halike⟩ := hFG.fields fields_eq
      obtain ⟨g, hg, hfg⟩ := exists_of_forall₂ halike.flip mem
      exact ⟨g.shape, hw.field hgs hg, hfg.shape⟩

theorem ReachesUndefined.alike (hFG : F.Alike G) (hst : s.Alike t) {e : DefinitionError}
    (h : F.ReachesUndefined s e) : ∃ e', G.ReachesUndefined t e' := by
  obtain ⟨ref, hreaches, he⟩ := h
  obtain ⟨u, hu, href⟩ := hreaches.alike hFG hst
  cases href
  obtain ⟨e', he'⟩ := hFG.fields_error he
  exact ⟨e', ref, hu, he'⟩

end Family

/-! ### What is apart stays apart -/

theorem EnumShape.codes_eq {d e : EnumShape} (h : d.untyped = e.untyped) : d.codes = e.codes := by
  have hcodes : d.untyped.codes = e.untyped.codes := congrArg EnumShape.codes h
  exact hcodes

namespace Shape.Alike

theorem isForeign_eq (hac : a.Alike c) (hbd : b.Alike d) : a.isForeign b = c.isForeign d := by
  cases hac with
  | enumeration hac =>
      cases hbd with
      | enumeration hbd => rw [isForeign, isForeign, EnumShape.codes_eq hac, EnumShape.codes_eq hbd]
      | primitive p => rw [isForeign, isForeign, EnumShape.codes_eq hac]
      | _ => rfl
  | primitive p =>
      cases hbd with
      | enumeration hbd => rw [isForeign, isForeign, EnumShape.codes_eq hbd]
      | _ => rfl
  | _ => cases hbd <;> rfl

theorem plain (h : a.Alike b) (ha : a.Plain) : b.Plain := by
  constructor
  · rintro rfl
    cases h
    exact ha.not_any rfl
  · rintro inner rfl
    cases h
    exact ha.not_nullable _ rfl

theorem withheld (h : a.Alike b) (ha : a.Withheld) : b.Withheld := by
  have hplain := h.plain ⟨ha.not_any, ha.not_nullable⟩
  refine ⟨hplain.not_any, hplain.not_nullable, ?_⟩
  rintro rfl
  cases h
  exact ha.not_null rfl

end Shape.Alike

/-- Alike shapes are apart at the same rank in alike families. -/
theorem Family.DisjointBy.alike {n : Nat} (hFG : F.Alike G) (h : F.DisjointBy n a b)
    (hac : a.Alike c) (hbd : b.Alike d) : G.DisjointBy n c d := by
  induction h generalizing c d with
  | foreign h => exact .foreign ((hac.isForeign_eq hbd).symm.trans h)
  | nullableLeft withheld _ ih =>
      cases hac with
      | nullable hac => exact .nullableLeft (hbd.withheld withheld) (ih hac hbd)
  | nullableRight withheld _ ih =>
      cases hbd with
      | nullable hbd => exact .nullableRight (hac.withheld withheld) (ih hbd hac)
  | unionRight plain _ ih =>
      obtain ⟨_, others, rfl, _⟩ := hbd.union_inv
      refine .unionRight (hac.plain plain) fun t ht => ?_
      obtain ⟨s, hs, hts⟩ := hbd.symm.alternative ht
      exact ih s hs hts.symm hac
  | unionLeft plain single _ ih =>
      obtain ⟨_, others, rfl, _⟩ := hac.union_inv
      refine .unionLeft (hbd.plain plain) ?_ fun t ht => ?_
      · rintro shapes rfl
        obtain ⟨_, shapes', heq, _⟩ := hbd.symm.union_inv
        exact single shapes' heq
      · obtain ⟨s, hs, hts⟩ := hac.symm.alternative ht
        exact ih s hs hts.symm hbd
  | field ne left right mem shared needed _ ih =>
      cases hac
      cases hbd
      obtain ⟨fs', hfs', hfs⟩ := hFG.fields left
      obtain ⟨gs', hgs', hgs⟩ := hFG.fields right
      obtain ⟨f', hf', hff⟩ := exists_of_forall₂ hfs.flip mem
      obtain ⟨g', hg', hgg⟩ := Field.find?_some_alike hgs shared
      refine .field ne hfs' hgs' hf' (hff.wire ▸ hg') ?_ (ih hff.shape hgg.shape)
      rwa [← hff.optional, ← hgg.optional]
  | fieldBack ne left right mem shared needed _ ih =>
      cases hac
      cases hbd
      obtain ⟨fs', hfs', hfs⟩ := hFG.fields left
      obtain ⟨gs', hgs', hgs⟩ := hFG.fields right
      obtain ⟨g', hg', hgg⟩ := exists_of_forall₂ hgs.flip mem
      obtain ⟨f', hf', hff⟩ := Field.find?_some_alike hfs shared
      refine .fieldBack ne hfs' hgs' hg' (hgg.wire ▸ hf') ?_ (ih hgg.shape hff.shape)
      rwa [← hgg.optional, ← hff.optional]
  | exclusive ne left right lacks_right lacks_left =>
      cases hac
      cases hbd
      obtain ⟨fs', hfs', hfs⟩ := hFG.fields left
      obtain ⟨gs', hgs', hgs⟩ := hFG.fields right
      exact .exclusive ne hfs' hgs' (lacks_right.alike hfs hgs) (lacks_left.alike hgs hfs)

theorem Family.AreDisjoint.alike (hFG : F.Alike G) (h : F.AreDisjoint a b) (hac : a.Alike c)
    (hbd : b.Alike d) : G.AreDisjoint c d := by
  obtain ⟨n, hn⟩ := h
  exact ⟨n, hn.alike hFG hac hbd⟩

/-! ### Alternatives in another order -/

theorem pairwise_of_forall₂ {α β : Type} {R : α → β → Prop} {P : α → α → Prop} {Q : β → β → Prop}
    {xs : List α} {ys : List β} (h : List.Forall₂ R xs ys)
    (hPQ : ∀ x x' y y', R x y → R x' y' → P x x' → Q y y') (hxs : xs.Pairwise P) :
    ys.Pairwise Q := by
  induction h with
  | nil => exact .nil
  | cons hxy hrest ih =>
      obtain ⟨hhead, htail⟩ := List.pairwise_cons.1 hxs
      refine .cons (fun y' hy' => ?_) (ih htail)
      obtain ⟨x', hx', hxy'⟩ := exists_of_forall₂ hrest hy'
      exact hPQ _ _ _ _ hxy hxy' (hhead x' hx')

/-- A relation that is symmetric and passes to alike shapes is one of the alternatives of alike
unions. -/
theorem Shape.Alike.pairwise {alternatives others : List Shape} {P Q : Shape → Shape → Prop}
    (h : Alike (.union alternatives) (.union others)) (hsymm : ∀ a b, P a b → P b a)
    (hPQ : ∀ a b c d, a.Alike c → b.Alike d → P a b → Q c d) (hpairs : alternatives.Pairwise P) :
    others.Pairwise Q := by
  obtain ⟨reordered, _, heq, order, each⟩ := h.union_inv
  cases heq
  exact pairwise_of_forall₂ each hPQ (hpairs.perm order (hsymm _ _))

/-! ### Null in another order -/

namespace Shape

theorem HasNull.alike (h : a.HasNull) (hab : a.Alike b) : b.HasNull := by
  induction h generalizing b with
  | null =>
      cases hab
      exact .null
  | inner _ ih =>
      cases hab with
      | nullable hab => exact .inner (ih hab)
  | alternative mem _ ih =>
      obtain ⟨_, others, rfl, _⟩ := hab.union_inv
      obtain ⟨t, ht, hst⟩ := hab.alternative mem
      exact .alternative ht (ih hst)

theorem HasNullable.alike (h : a.HasNullable) (hab : a.Alike b) : b.HasNullable := by
  induction h generalizing b with
  | nullable =>
      cases hab
      exact .nullable _
  | alternative mem _ ih =>
      obtain ⟨_, others, rfl, _⟩ := hab.union_inv
      obtain ⟨t, ht, hst⟩ := hab.alternative mem
      exact .alternative ht (ih hst)

theorem Alike.isUnion_eq (h : a.Alike b) : a.isUnion = b.isUnion := by
  cases h <;> rfl

theorem NullClash.alike (h : a.NullClash b) (hac : a.Alike c) (hbd : b.Alike d) :
    c.NullClash d where
  left := hac.isUnion_eq ▸ h.left
  right := hbd.isUnion_eq ▸ h.right
  meets := h.meets.imp (fun ⟨ha, hb⟩ => ⟨ha.alike hac, hb.alike hbd⟩)
    fun ⟨ha, hb⟩ => ⟨ha.alike hac, hb.alike hbd⟩

end Shape

namespace Family

/-- Every union that a shape reaches has alternatives, and in no order of two of them is null passed
over. -/
structure Orderly (F : Family) (s : Shape) : Prop where
  populated : F.Populated s
  unclashing : ∀ alternatives, F.Reaches s (.union alternatives) →
    alternatives.Pairwise fun a b => ¬ a.NullClash b

theorem Orderly.alike (hFG : F.Alike G) (hst : s.Alike t) (h : F.Orderly s) : G.Orderly t := by
  have hback : ∀ others, G.Reaches t (.union others) →
      ∃ alternatives, F.Reaches s (.union alternatives) ∧
        (Shape.union alternatives).Alike (.union others) := by
    intro others hreaches
    obtain ⟨u, hu, halike⟩ := hreaches.alike hFG.symm hst.symm
    obtain ⟨_, alternatives, rfl, _⟩ := halike.union_inv
    exact ⟨alternatives, hu, halike.symm⟩
  constructor
  · rintro others hreaches rfl
    obtain ⟨alternatives, hu, halike⟩ := hback _ hreaches
    obtain ⟨a, ha⟩ := List.exists_mem_of_ne_nil _ (h.populated alternatives hu)
    obtain ⟨b, hb, _⟩ := halike.alternative ha
    cases hb
  · intro others hreaches
    obtain ⟨alternatives, hu, halike⟩ := hback others hreaches
    refine halike.pairwise (fun a b hab hba => hab hba.symm) ?_ (h.unclashing alternatives hu)
    exact fun a b c d hac hbd hab hcd => hab (hcd.alike hac.symm hbd.symm)

/-- Alternatives that are apart are so in another order. -/
theorem Orderly.pairwise {alternatives others : List Shape} (h : F.Orderly s) (hFG : F.Alike G)
    (hreaches : F.Reaches s (.union alternatives))
    (halike : (Shape.union alternatives).Alike (.union others))
    (hapart : alternatives.Pairwise F.AreDisjoint) : others.Pairwise G.AreDisjoint := by
  have hpopulated : ∀ a ∈ alternatives, F.Populated a :=
    fun a ha => h.populated.of_reaches (hreaches.part ha)
  have hboth : alternatives.Pairwise fun a b => F.AreDisjoint a b ∧ F.AreDisjoint b a := by
    refine (hapart.and (h.unclashing alternatives hreaches)).imp_of_mem ?_
    rintro a b ha hb ⟨hab, hclash⟩
    exact ⟨hab, hab.symm (hpopulated a ha) (hpopulated b hb) hclash⟩
  exact halike.pairwise (fun a b => And.symm) (fun a b c d hac hbd hab => hab.1.alike hFG hac hbd)
    hboth

/-! ### What is reported -/

/-- What is reported of a shape is reported of an alike shape. -/
theorem exists_reported {us vs : List Shape} (hFG : F.Alike G) (hst : s.Alike t)
    (ht : G.Orderly t) (hus : F.ambiguousUnions s = .ok us) (hvs : G.ambiguousUnions t = .ok vs) :
    ∀ u ∈ us, ∃ v ∈ vs, u.Alike v := by
  intro u hu
  obtain ⟨hend, hreported⟩ := ambiguousUnions_inv hvs
  obtain ⟨hmet, hambiguous⟩ := ((ambiguousUnions_inv hus).2 u).1 hu
  obtain ⟨w, hw, huw⟩ := (reaches_of_walk hmet).alike hFG hst
  obtain ⟨v, hv, huntyped⟩ := met_of_reaches hend hw
  have huv := huw.of_untyped huntyped
  refine ⟨v, (hreported v).2 ⟨hv, ?_⟩, huv⟩
  cases hambiguous with
  | union hnot =>
      obtain ⟨_, others, rfl, _⟩ := huv.union_inv
      exact .union (mt (ht.pairwise hFG.symm (reaches_of_walk hv) huv.symm) hnot)

/-- The analysis reports of alike shapes in alike families alike unions, or nothing of either. -/
theorem ambiguousUnions_alike {us : List Shape} (hFG : F.Alike G) (hst : s.Alike t)
    (hs : F.Orderly s) (hus : F.ambiguousUnions s = .ok us) :
    ∃ vs, G.ambiguousUnions t = .ok vs ∧
      (∀ u ∈ us, ∃ v ∈ vs, u.Alike v) ∧ ∀ v ∈ vs, ∃ u ∈ us, u.Alike v := by
  cases hvs : G.ambiguousUnions t with
  | error e =>
      obtain ⟨e', hundefined⟩ := (undefined_of_ambiguousUnions hvs).alike hFG.symm hst.symm
      exact (not_undefined_of_walk (ambiguousUnions_inv hus).1 hundefined).elim
  | ok vs =>
      refine ⟨vs, rfl, exists_reported hFG hst (hs.alike hFG hst) hus hvs, fun v hv => ?_⟩
      obtain ⟨u, hu, hvu⟩ := exists_reported hFG.symm hst.symm hs hvs hus v hv
      exact ⟨u, hu, hvu.symm⟩

end Family

/-- Neither the order of two shapes nor the order of alternatives matters to the overlap analysis,
unless null is passed over in one order: of two shapes it says the same in either order, and of
alike shapes it reports alike unions. -/
theorem overlap_either_order (F : Family) :
    (∀ a b, F.Populated a → F.Populated b → ¬ a.NullClash b →
        (∀ x y, F.mayOverlap a b = .ok x → F.mayOverlap b a = .ok y → x = y) ∧
          ((∀ e, ¬ F.ReachesUndefined a e ∧ ¬ F.ReachesUndefined b e) →
            ∃ overlap, F.mayOverlap a b = .ok overlap ∧ F.mayOverlap b a = .ok overlap)) ∧
      ∀ G s t us, F.Alike G → s.Alike t → F.Orderly s → F.ambiguousUnions s = .ok us →
        ∃ vs, G.ambiguousUnions t = .ok vs ∧
          (∀ u ∈ us, ∃ v ∈ vs, u.Alike v) ∧ ∀ v ∈ vs, ∃ u ∈ us, u.Alike v := by
  refine ⟨fun a b ha hb hclash => ⟨fun x y => Family.mayOverlap_swap ha hb hclash, ?_⟩,
    fun G s t us hFG hst hs => Family.ambiguousUnions_alike hFG hst hs⟩
  intro hdefined
  obtain ⟨x, hx⟩ := Family.exists_mayOverlap fun e => hdefined e
  obtain ⟨y, hy⟩ := Family.exists_mayOverlap fun e => (hdefined e).symm
  exact ⟨x, hx, Family.mayOverlap_swap ha hb hclash hx hy ▸ hy⟩

/-- A model that holds a number of either kind; the kinds are declared in either order. -/
def dial : Model := .named "Dial" [.required "value" (.union [.integer, .float] false)]

def dialReordered : Model := .named "Dial" [.required "value" (.union [.float, .integer] false)]

def dialNumber : Shape := .union [.ofKind .integer, .ofKind .float]

/-- A dial, or a text that may be null. -/
def dialEntry : Shape := .union [.record dial.ref, .nullable (.ofKind .string)]

theorem dial_fields :
    (Family.mk [dial]).fields dial.ref = .ok [⟨"value", "value", dialNumber, false⟩] := rfl

theorem dial_alike : (Family.mk [dial]).Alike (Family.mk [dialReordered]) := by
  intro ref
  by_cases href : dial.ref = ref
  · subst href
    refine .ok (.cons ⟨rfl, rfl, ?_⟩ .nil)
    exact .of_order (.swap _ _ _) (.cons (.primitive _) (.cons (.primitive _) .nil))
  · have hother : dialReordered.ref ≠ ref := href
    rw [Family.fields, Family.fields, Family.find?, Family.find?, List.find?_cons_of_neg,
      List.find?_cons_of_neg]
    · exact .ok .nil
    · exact of_decide_eq_false (by simpa using hother)
    · exact of_decide_eq_false (by simpa using href)

/-- All that an entry is made of. -/
def dialParts : List Shape :=
  [dialEntry, .record dial.ref, dialNumber, .ofKind .integer, .ofKind .float,
    .nullable (.ofKind .string), .ofKind .string]

theorem dialEntry_reaches (h : (Family.mk [dial]).Reaches dialEntry u) : u ∈ dialParts := by
  refine h.keeps (P := (· ∈ dialParts)) List.mem_cons_self ?_ ?_
  · intro t u ht hu
    simp only [dialParts, List.mem_cons, List.not_mem_nil, or_false] at ht ⊢
    rcases ht with rfl | rfl | rfl | rfl | rfl | rfl | rfl <;>
      simp_all [dialEntry, dialNumber, Shape.innerParts, Shape.ofKind] <;> tauto
  · intro ref fields hfields f hf
    by_cases href : dial.ref = ref
    · subst href
      cases dial_fields.symm.trans hfields
      cases List.mem_singleton.1 hf
      exact .tail _ (.tail _ (.head _))
    · rw [Family.fields, Family.find?, List.find?_cons_of_neg (by simpa using href)] at hfields
      cases hfields
      cases hf

theorem dialEntry_orderly : (Family.mk [dial]).Orderly dialEntry := by
  have hunion : ∀ alternatives, (Family.mk [dial]).Reaches dialEntry (.union alternatives) →
      Shape.union alternatives = dialEntry ∨ Shape.union alternatives = dialNumber := by
    intro alternatives h
    have hmem := dialEntry_reaches h
    simpa [dialParts, Shape.ofKind] using hmem
  constructor
  · intro alternatives h
    rcases hunion alternatives h with heq | heq <;> cases heq <;> exact List.cons_ne_nil _ _
  · intro alternatives h
    rcases hunion alternatives h with heq | heq <;> cases heq
    · exact List.pairwise_pair.2 fun h => nomatch h.left
    · exact List.pairwise_pair.2 fun h => nomatch h.left

theorem dialEntry_ambiguous :
    (Family.mk [dial]).ambiguousUnions dialEntry = .ok [dialNumber] := by
  have hm : (Family.mk [dial]).find? dial.ref = some dial := rfl
  have hfields : dial.fields.mapM (·.field) = .ok [⟨"value", "value", dialNumber, false⟩] := rfl
  have hwalk : (Family.mk [dial]).walk dialEntry = ⟨dialParts, none⟩ := by
    have hrecord : ∀ ref, dialEntry ≠ .record ref := fun ref h => by cases h
    rw [Family.walk, Family.walkFrom_new hrecord List.not_mem_nil, dialEntry, Shape.innerParts,
      List.cons_append, Family.walkFrom_record (by simp [Shape.untyped, Shape.refs]) hm, hfields]
    simp [Family.walkFrom, Shape.untyped, Shape.untypedAll, Shape.innerParts, Walk.after,
      Shape.ofKind, dialParts, dialEntry, dialNumber]
  rw [Family.ambiguousUnions, hwalk]
  simp [dialParts, dialEntry, dialNumber, Family.ambiguousAmong, Family.isAmbiguous,
    Family.overlapsAny, Family.mayOverlap, Family.overlapFrom, Shape.ofKind,
    PrimitiveKind.compatible, Shape.null]

theorem dialNumber_not_null : ¬ dialNumber.HasNull ∧ ¬ dialNumber.HasNullable := by
  constructor
  · rintro (_ | _ | ⟨mem, h⟩)
    rcases List.mem_pair.1 mem with rfl | rfl <;> cases h
  · rintro (_ | ⟨mem, h⟩)
    rcases List.mem_pair.1 mem with rfl | rfl <;> cases h

/-- The kinds of numbers in an entry are reported, whichever way they and the entry are declared. -/
theorem overlap_either_order_entry :
    (∃ overlap, (Family.mk [dial]).mayOverlap dialEntry dialNumber = .ok overlap ∧
        (Family.mk [dial]).mayOverlap dialNumber dialEntry = .ok overlap) ∧
      ∃ vs, (Family.mk [dialReordered]).ambiguousUnions
          (.union [.nullable (.ofKind .string), .record dial.ref]) = .ok vs ∧
        ∃ v ∈ vs, dialNumber.Alike v := by
  have hnumber : (Family.mk [dial]).Reaches dialEntry dialNumber :=
    .field (.part .refl List.mem_cons_self) dial_fields List.mem_cons_self
  have halike : dialEntry.Alike (.union [.nullable (.ofKind .string), .record dial.ref]) :=
    .of_order (.swap _ _ _) (.cons (.nullable (.primitive _)) (.cons (.record _) .nil))
  constructor
  · refine ((overlap_either_order _).1 dialEntry dialNumber dialEntry_orderly.populated
      (dialEntry_orderly.populated.of_reaches hnumber) ?_).2 fun e => ?_
    · rintro ⟨_, _, ⟨_, hnullable⟩ | ⟨_, hnull⟩⟩
      · exact dialNumber_not_null.2 hnullable
      · exact dialNumber_not_null.1 hnull
    · have hend := (Family.ambiguousUnions_inv dialEntry_ambiguous).1
      exact ⟨Family.not_undefined_of_walk hend,
        fun h => Family.not_undefined_of_walk hend (h.of_reaches hnumber)⟩
  · obtain ⟨vs, hvs, hreported, _⟩ := (overlap_either_order _).2 _ dialEntry _ _ dial_alike halike
      dialEntry_orderly dialEntry_ambiguous
    exact ⟨vs, hvs, hreported dialNumber List.mem_cons_self⟩

/-- Null and an integer. -/
def nullOrInteger : Shape := .union [.null, .ofKind .integer]

/-- A text, which may be null, and a truth value. -/
def textOrBoolean : Shape := .union [.nullable (.ofKind .string), .ofKind .boolean]

/-- Null is compared with the text that may be null in one order and passed over in the other. -/
theorem overlap_one_order_only :
    (Family.mk []).mayOverlap nullOrInteger textOrBoolean = .ok false ∧
      (Family.mk []).mayOverlap textOrBoolean nullOrInteger = .ok true := by
  constructor
  · simp [nullOrInteger, textOrBoolean, Family.mayOverlap, Family.overlapFrom, Family.anyOverlap,
      Shape.null, Shape.ofKind, PrimitiveKind.compatible]
  · simp [nullOrInteger, textOrBoolean, Family.mayOverlap, Family.overlapFrom, Family.anyOverlap,
      Shape.null, Shape.ofKind, PrimitiveKind.compatible]
    rfl

end EditorProtocol
