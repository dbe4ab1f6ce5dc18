import EditorProtocol.Proofs.Codec.Closed
import EditorProtocol.Proofs.Codec.Apart
import EditorProtocol.Proofs.Codec.Soundness
import EditorProtocol.Proofs.Shape.Reachable

/-!
Shapes of which one has no closed value of the other. A check by computation compares the shapes of
single values that two shapes come down to: their values travel in different forms, or one of two
records needs a field that the other does not declare. What passes the check is refused.
-/

namespace EditorProtocol

variable {F : Family} {s t : Shape} {w : Value}

/-- Whether the records of a model need a field that another model does not declare. -/
def Family.demands (F : Family) (a b : ModelRef) : Bool :=
  match F.find? a, F.find? b with
  | some m, some n => m.fields.any fun d => d.fallback.isNone && n.fields.all (·.wire != d.wire)
  | _, _ => false

namespace Shape

mutual

/-- What a shape comes down to: its alternatives and inner shapes, and null if it may be null. -/
def leaves : Shape → List Shape
  | .nullable inner => .null :: inner.leaves
  | .union alternatives => leavesAll alternatives
  | s => [s]

def leavesAll : List Shape → List Shape
  | [] => []
  | s :: rest => s.leaves ++ leavesAll rest

end

/-- Whether a shape without alternatives takes no closed value of another one. -/
def leafExcludes (F : Family) : (taken refusing : Shape) → Bool
  | .record a, .record b => F.demands b a
  | s, t =>
    match s.wireKind?, t.wireKind? with
    | some j, some k => j != k
    | _, _ => false

/-- Whether a shape takes no closed value of another one. -/
def excludes (F : Family) (s t : Shape) : Bool :=
  s.leaves.all fun l => t.leaves.all (l.leafExcludes F)

/-- Whether no closed value of one of several shapes is taken by another of them. -/
def areExclusive (F : Family) : List Shape → Bool
  | [] => true
  | s :: rest => rest.all (fun t => s.excludes F t && t.excludes F s) && areExclusive F rest

mutual

/-- Whether the alternatives of every union in a shape exclude one another. -/
def isExclusive (F : Family) : Shape → Bool
  | .union alternatives => areExclusive F alternatives && allExclusive F alternatives
  | .sequence element => element.isExclusive F
  | .nullable inner => inner.isExclusive F
  | _ => true

def allExclusive (F : Family) : List Shape → Bool
  | [] => true
  | s :: rest => s.isExclusive F && allExclusive F rest

end

/-! ### What values come down to -/

theorem leaves_subset {alternatives : List Shape} (hs : s ∈ alternatives) :
    s.leaves ⊆ leavesAll alternatives := by
  induction alternatives with
  | nil => cases hs
  | cons t rest ih =>
      rw [leavesAll]
      rcases List.mem_cons.1 hs with rfl | hs
      · exact List.subset_append_left _ _
      · exact List.Subset.trans (ih hs) (List.subset_append_right _ _)

theorem null_takes : Shape.null.Takes F .null := by
  refine ⟨.null, ?_⟩
  rw [Shape.null, ofKind, decode]
  rfl

/-- What a shape takes, something that it comes down to takes. -/
theorem Takes.exists_leaf {s : Shape} (h : s.Takes F w) : ∃ l ∈ s.leaves, l.Takes F w := by
  cases s with
  | nullable inner =>
      rw [leaves]
      by_cases hnull : w = .null
      · subst hnull
        exact ⟨.null, List.mem_cons_self, null_takes⟩
      · obtain ⟨l, hl, htaken⟩ := Takes.exists_leaf (h.nullable_inv hnull)
        exact ⟨l, List.mem_cons_of_mem _ hl, htaken⟩
  | union alternatives =>
      rw [leaves]
      obtain ⟨s, hs, htaken⟩ := h.union_inv
      obtain ⟨l, hl, htaken⟩ := Takes.exists_leaf htaken
      exact ⟨l, leaves_subset hs hl, htaken⟩
  | _ => exact ⟨_, List.mem_cons_self, h⟩
termination_by sizeOf s
decreasing_by
  all_goals subst_vars
  · exact sizeOf_lt_of_mem hs
  · simp +arith

end Shape

/-- A closed value is closed under something that the shape comes down to and that takes it. -/
theorem Closed.exists_leaf (hclosed : Closed F s w) (h : s.Takes F w) :
    ∃ l ∈ s.leaves, l.Takes F w ∧ Closed F l w := by
  induction hclosed with
  | absent inner =>
      rw [Shape.leaves]
      exact ⟨.null, List.mem_cons_self, Shape.null_takes, .primitive _ _⟩
  | @present inner w _ ih =>
      rw [Shape.leaves]
      by_cases hnull : w = .null
      · subst hnull
        exact ⟨.null, List.mem_cons_self, Shape.null_takes, .primitive _ _⟩
      · obtain ⟨l, hl, hleaf⟩ := ih (h.nullable_inv hnull)
        exact ⟨l, List.mem_cons_of_mem _ hl, hleaf⟩
  | union listed taken _ ih =>
      rw [Shape.leaves]
      obtain ⟨l, hl, hleaf⟩ := ih taken
      exact ⟨l, Shape.leaves_subset listed hl, hleaf⟩
  | primitive p w => exact ⟨_, List.mem_cons_self, h, .primitive p w⟩
  | enumeration e w => exact ⟨_, List.mem_cons_self, h, .enumeration e w⟩
  | any w => exact ⟨_, List.mem_cons_self, h, .any w⟩
  | sequence items => exact ⟨_, List.mem_cons_self, h, .sequence items⟩
  | record fields_eq keys values =>
      exact ⟨_, List.mem_cons_self, h, .record fields_eq keys values⟩

/-! ### What the check is worth -/

/-- The field that the records of one model need and another model does not declare. -/
theorem Family.demands_inv {a b : ModelRef} (h : F.demands a b = true) :
    ∃ m n, F.find? a = some m ∧ F.find? b = some n ∧
      ∃ d ∈ m.fields, d.fallback = none ∧ ∀ e ∈ n.fields, e.wire ≠ d.wire := by
  unfold demands at h
  split at h
  · next m n hm hn =>
    obtain ⟨d, hd, h⟩ := List.any_eq_true.1 h
    rw [Bool.and_eq_true, Option.isNone_iff_eq_none, List.all_eq_true] at h
    exact ⟨m, n, hm, hn, d, hd, h.1, fun e he => bne_iff_ne.1 (h.2 e he)⟩
  · cases h

/-- Without a field that the records of a model need, nothing is taken as one. -/
theorem not_takes_of_demands (hF : F.Regular) {a b : ModelRef} (h : F.demands b a = true)
    (hclosed : Closed F (.record a) w) : ¬ (Shape.record b).Takes F w := by
  obtain ⟨m, n, hm, hn, d, hd, hnone, hlacks⟩ := Family.demands_inv h
  intro hb
  have hregular := (hF.model hm).1
  obtain ⟨_, fields, hfields, hdecoded⟩ := hb.record_inv
  cases (Family.fields_of_find hm (Model.fields_eq hregular.keyed)).symm.trans hfields
  have hwire := (hregular.fields d hd).wire_eq
  have hneeded : d.asField.optional = false := by
    rw [(hregular.fields d hd).optional_eq, hnone]
    rfl
  obtain ⟨item, _, hitem⟩ := (hdecoded _ (List.mem_map_of_mem hd)).exists_item hneeded
  rw [hwire] at hitem
  obtain ⟨f, hf, hkey⟩ :=
    hclosed.keys_inv (Family.fields_of_find hn (Model.fields_eq (hF.model hn).1.keyed)) hitem
  obtain ⟨e, he, rfl⟩ := List.mem_map.1 hf
  rw [((hF.model hn).1.fields e he).wire_eq] at hkey
  exact hlacks e he hkey

namespace Shape

theorem not_takes_of_leafExcludes (hF : F.Regular) (hw : w.IsJson)
    (h : s.leafExcludes F t = true) (hs : s.Takes F w) (hclosed : Closed F s w) :
    ¬ t.Takes F w := by
  unfold leafExcludes at h
  split at h
  · exact not_takes_of_demands hF h hclosed
  · split at h
    · next j k hj hk =>
      rintro ⟨v, hv⟩
      obtain ⟨u, hu⟩ := hs
      cases (wireKind?_of_decode hw hu hj).symm.trans (wireKind?_of_decode hw hv hk)
      exact absurd rfl (bne_iff_ne.1 h)
    · cases h

/-- A shape refuses the closed values of another shape that excludes it. -/
theorem refused_of_excludes (hF : F.Regular) (ht : t.isRegular F = true) (hw : w.IsJson)
    (h : s.excludes F t = true) (hs : s.Takes F w) (hclosed : Closed F s w) :
    Refused (decode F false w t).outcome := by
  rcases (decode_sound hF ht hw).decided with ⟨v, hv⟩ | hrefused
  · obtain ⟨l, hl, htaken, hleaf⟩ := hclosed.exists_leaf hs
    obtain ⟨l', hl', htaken'⟩ := Takes.exists_leaf ⟨v, hv⟩
    have hexcludes := List.all_eq_true.1 (List.all_eq_true.1 h l hl) l' hl'
    exact (not_takes_of_leafExcludes hF hw hexcludes htaken hleaf htaken').elim
  · exact hrefused

/-- A closed value of either of two shapes is no value of the other one. -/
def Exclusive (F : Family) (s t : Shape) : Prop :=
  ∀ w, w.IsJson →
    (s.Takes F w → Closed F s w → Refused (decode F false w t).outcome) ∧
      (t.Takes F w → Closed F t w → Refused (decode F false w s).outcome)

theorem exclusive_of_excludes (hF : F.Regular) (hs : s.isRegular F = true)
    (ht : t.isRegular F = true) (h : (s.excludes F t && t.excludes F s) = true) :
    Exclusive F s t := by
  rw [Bool.and_eq_true] at h
  exact fun w hw =>
    ⟨refused_of_excludes hF ht hw h.1, refused_of_excludes hF hs hw h.2⟩

theorem pairwise_of_areExclusive (hF : F.Regular) {alternatives : List Shape}
    (hregular : areRegular F alternatives = true) (h : areExclusive F alternatives = true) :
    alternatives.Pairwise (Exclusive F) := by
  induction alternatives with
  | nil => exact .nil
  | cons s rest ih =>
      rw [areRegular, Bool.and_eq_true] at hregular
      rw [areExclusive, Bool.and_eq_true, List.all_eq_true] at h
      refine .cons (fun t ht => ?_) (ih hregular.2 h.2)
      exact exclusive_of_excludes hF hregular.1 (areRegular_mem hregular.2 ht) (h.1 t ht)

/-! ### Unions that are reached -/

/-- What is checked of a shape: its alternatives can be told apart and exclude one another. -/
def isClear (F : Family) (s : Shape) : Bool := s.isRegular F && s.isExclusive F

theorem mem_allExclusive {alternatives : List Shape} (hs : s ∈ alternatives)
    (h : allExclusive F alternatives = true) : s.isExclusive F = true := by
  induction alternatives with
  | nil => cases hs
  | cons t rest ih =>
      rw [allExclusive, Bool.and_eq_true] at h
      rcases List.mem_cons.1 hs with rfl | hs
      · exact h.1
      · exact ih hs h.2

theorem isClear_part (h : s.isClear F = true) (ht : t ∈ s.innerParts) : t.isClear F = true := by
  rw [isClear, Bool.and_eq_true] at h ⊢
  cases s with
  | union alternatives =>
      rw [isRegular, isExclusive, Bool.and_eq_true, Bool.and_eq_true] at h
      exact ⟨areRegular_mem h.1.1 ht, mem_allExclusive ht h.2.2⟩
  | sequence element =>
      cases List.mem_singleton.1 ht
      exact h
  | nullable inner =>
      cases List.mem_singleton.1 ht
      exact h
  | _ => cases ht

end Shape

/-- Whether the unions in the fields of a family have alternatives that exclude one another. -/
def Family.isExclusive (F : Family) : Bool :=
  F.models.all fun m => m.fields.all fun d => d.asField.shape.isExclusive F

/-- The fields of a family that passes the check do. -/
theorem Family.isClear_field (hF : F.Regular) (h : F.isExclusive = true) {ref : ModelRef}
    {fields : List Field} (hfields : F.fields ref = .ok fields) :
    ∀ f ∈ fields, f.shape.isClear F = true := by
  cases hm : F.find? ref with
  | none =>
      rw [Family.fields, hm] at hfields
      cases hfields
      exact fun f hf => (List.not_mem_nil hf).elim
  | some m =>
      obtain ⟨hmem, _⟩ := mem_of_find? hm
      cases hfields.symm.trans (fields_of_find hm (Model.fields_eq (hF m hmem).keyed))
      intro f hf
      obtain ⟨d, hd, rfl⟩ := List.mem_map.1 hf
      rw [Shape.isClear, ((hF m hmem).fields d hd).shape]
      exact List.all_eq_true.1 (List.all_eq_true.1 h m hmem) d hd

/-- The alternatives of every union that a clear shape reaches exclude one another. -/
theorem Family.Reaches.exclusive (hF : F.Regular) (h : F.isExclusive = true)
    (hs : s.isClear F = true) {alternatives : List Shape}
    (hreaches : F.Reaches s (.union alternatives)) :
    alternatives.Pairwise (Shape.Exclusive F) := by
  have hclear := hreaches.keeps (P := fun t => t.isClear F = true) hs
    (fun _ _ => Shape.isClear_part) fun _ _ => Family.isClear_field hF h
  rw [Shape.isClear, Bool.and_eq_true, Shape.isRegular, Shape.isExclusive, Bool.and_eq_true,
    Bool.and_eq_true] at hclear
  exact Shape.pairwise_of_areExclusive hF hclear.1.1 hclear.2.1

end EditorProtocol
