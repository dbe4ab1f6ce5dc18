import EditorProtocol.Proofs.Shape.Field

/-!
Sound types and families. What validation asks of the values of a sound type is what its shape says:
bounds stand on integers only, and where a value may be of one of several types, bounds and listed
codes are such that the shape of each type tells all about it. The models of a sound family have
fields of sound types, and the order that some of them keep is an order of positions.
-/

namespace EditorProtocol

/-! ### Types -/

/-- Whether the shape of an integer under marks keeps one of their bounds, with every integer within
the shape within the bound. -/
def BoundKind.isKept (marks : List Mark) : BoundKind → Int → Bool
  | above, n => (Mark.minimum marks).any (n < ·)
  | atLeast, n => (Mark.minimum marks).any (n ≤ ·)
  | below, n => (Mark.maximum marks).any (· < n)
  | atMost, n => (Mark.maximum marks).any (· ≤ n)

/-- Whether the shape of an integer under marks keeps all bounds that count. -/
def Mark.areKept (marks : List Mark) : Bool :=
  [BoundKind.above, .atLeast, .below, .atMost].all fun kind =>
    (marks.filterMap kind.bound?).getLast?.all (kind.isKept marks)

/-- Whether a listed code is a number or a text wherever it is met: a member is one only if its
enumeration is made of such. -/
def Code.isBased : Code → Bool
  | .plain _ => true
  | .member m => (Value.member m).integer?.isSome || (Value.member m).text?.isSome

theorem Mark.areKept_of_areSimple {marks : List Mark} (h : Mark.areSimple marks = true) :
    Mark.areKept marks = true := by
  unfold Mark.areSimple at h
  split at h
  · rfl
  · next atLeast above atMost below =>
    rw [Bool.and_eq_true] at h
    refine List.all_eq_true.2 fun kind _ => ?_
    cases kind with
    | above =>
        cases above <;> cases atLeast <;>
          first
            | rfl
            | exact absurd h.1 Bool.false_ne_true
            | exact decide_eq_true (Int.lt_succ _)
    | atLeast =>
        cases above <;> cases atLeast <;>
          first
            | rfl
            | exact absurd h.1 Bool.false_ne_true
            | exact decide_eq_true (Int.le_refl _)
    | below =>
        cases below <;> cases atMost <;>
          first
            | rfl
            | exact absurd h.2 Bool.false_ne_true
            | exact decide_eq_true (Int.sub_one_lt_of_le (Int.le_refl _))
    | atMost =>
        cases below <;> cases atMost <;>
          first
            | rfl
            | exact absurd h.2 Bool.false_ne_true
            | exact decide_eq_true (Int.le_refl _)
  · cases h

theorem Code.isBased_of_isPlain {c : Code} (h : c.isPlain = true) : c.isBased = true := by
  cases c with
  | plain => rfl
  | member m => cases h

namespace TypeExpr

mutual

/-- Whether a type bounds nothing but integers. In a choice between several types, every bound of an
integer has to be one that its shape keeps, and every listed code one that stands for itself. -/
def isSound (choice : Bool) (marks : List Mark) : TypeExpr → Bool
  | .integer => !choice || Mark.areKept marks
  | .literal codes => marks.all Mark.isFree && (!choice || codes.all Code.isBased)
  | .sequence element => marks.all Mark.isFree && element.isSound choice []
  | .named _ t => t.isSound choice marks
  | .marked t own => t.isSound choice (own ++ marks)
  | .union members _ =>
    if (members.filter (!·.isNull)).length == 1 then areSound choice marks members
    else marks.all Mark.isFree && areSound true [] members
  | .foreign _ | .mapping _ _ | .shaped _ => true
  | .any | .null | .boolean | .float | .text | .list | .enumeration _ | .model _ =>
    marks.all Mark.isFree

def areSound (choice : Bool) (marks : List Mark) : List TypeExpr → Bool
  | [] => true
  | t :: rest => (t.isNull || t.isSound choice marks) && areSound choice marks rest

end

theorem areSound_mem {choice : Bool} {marks : List Mark} {ts : List TypeExpr}
    (h : areSound choice marks ts = true) {t : TypeExpr} (ht : t ∈ ts) (hnull : t.isNull = false) :
    t.isSound choice marks = true := by
  induction ts with
  | nil => cases ht
  | cons u rest ih =>
      rw [areSound, Bool.and_eq_true, Bool.or_eq_true] at h
      rcases List.mem_cons.1 ht with rfl | ht
      · exact h.1.resolve_left fun htrue => by rw [hnull] at htrue; cases htrue
      · exact ih h.2 ht

mutual

/-- The forms in which payloads are declared are sound. -/
theorem isSound_of_isPlain (t : TypeExpr) (choice : Bool) {marks : List Mark}
    (h : t.isPlain marks = true) : t.isSound choice marks = true := by
  cases t with
  | integer =>
      rw [isSound, Mark.areKept_of_areSimple h, Bool.or_true]
  | literal codes =>
      rw [isPlain, Bool.and_eq_true, List.all_eq_true (l := codes)] at h
      rw [isSound, h.1, Bool.true_and, Bool.or_eq_true]
      exact .inr (List.all_eq_true.2 fun c hc => Code.isBased_of_isPlain (h.2 c hc))
  | sequence element =>
      obtain ⟨hfree, helement⟩ := Bool.and_eq_true_iff.1 h
      rw [isSound, hfree, isSound_of_isPlain element choice helement, Bool.and_true]
  | named name u => exact isSound_of_isPlain u choice h
  | marked u own => exact isSound_of_isPlain u choice h
  | union members barred =>
      rw [isPlain] at h
      rw [isSound]
      split at h
      · next hsingle =>
        rw [if_pos hsingle]
        exact areSound_of_arePlain members choice h
      · next hsingle =>
        rw [Bool.and_eq_true, Bool.and_eq_true] at h
        rw [if_neg hsingle, h.1.1, areSound_of_arePlain members true h.1.2, Bool.and_true]
  | enumeration type => exact (Bool.and_eq_true_iff.1 h).1
  | foreign name => rfl
  | mapping key value => rfl
  | shaped shape => rfl
  | any => exact h
  | boolean => exact h
  | text => exact h
  | model ref => exact h
  | null => cases h
  | float => cases h
  | list => cases h

theorem areSound_of_arePlain (ts : List TypeExpr) (choice : Bool) {marks : List Mark}
    (h : arePlain marks ts = true) : areSound choice marks ts = true := by
  cases ts with
  | nil => rfl
  | cons t rest =>
      rw [arePlain, Bool.and_eq_true, Bool.or_eq_true] at h
      rw [areSound, Bool.and_eq_true, Bool.or_eq_true]
      exact ⟨h.1.imp_right (isSound_of_isPlain t choice), areSound_of_arePlain rest choice h.2⟩

end

end TypeExpr

/-! ### Models -/

/-- A model with fields of sound types; its start and end are positions if it keeps their order. -/
structure Model.Sound (F : Family) (m : Model) : Prop where
  keyed : m.Keyed
  types : ∀ d ∈ m.fields, d.type.isSound false [] = true
  start : m.ordered = true → m.Needs "start" F.isPositional
  stop : m.ordered = true → m.Needs "end" F.isPositional

/-- A family of sound models. -/
def Family.Sound (F : Family) : Prop := ∀ m ∈ F.models, m.Sound F

instance (m : Model) : Decidable m.Keyed :=
  decidable_of_iff
    ((m.fields.map (·.name)).Nodup ∧ (m.fields.map (·.wire)).Nodup ∧ m.byName = true ∧
      (∀ d ∈ m.fields, ∀ e ∈ m.fields, d.wire = e.name → d.name = e.name) ∧
      ∀ d ∈ m.fields, d.field.isOk = true)
    ⟨fun ⟨a, b, c, d, e⟩ => ⟨a, b, c, d, e⟩, fun ⟨a, b, c, d, e⟩ => ⟨a, b, c, d, e⟩⟩

instance (F : Family) (m : Model) : Decidable (m.Sound F) :=
  decidable_of_iff
    (m.Keyed ∧ (∀ d ∈ m.fields, d.type.isSound false [] = true) ∧
      (m.ordered = true → m.Needs "start" F.isPositional) ∧
      (m.ordered = true → m.Needs "end" F.isPositional))
    ⟨fun ⟨a, b, c, d⟩ => ⟨a, b, c, d⟩, fun ⟨a, b, c, d⟩ => ⟨a, b, c, d⟩⟩

instance (F : Family) : Decidable F.Sound :=
  inferInstanceAs (Decidable (∀ m ∈ F.models, m.Sound F))

theorem Model.Regular.sound {F : Family} {m : Model} (hm : m.Regular F) : m.Sound F where
  keyed := hm.keyed
  types d hd := d.type.isSound_of_isPlain false (hm.fields d hd).plain
  start := hm.start
  stop := hm.stop

theorem Family.Regular.sound {F : Family} (hF : F.Regular) : F.Sound := fun m hm => (hF m hm).sound

/-- A model that a sound family has under a reference. -/
theorem Family.Sound.model {F : Family} (hF : F.Sound) {ref : ModelRef} {m : Model}
    (h : F.find? ref = some m) : m.Sound F ∧ m.ref = ref :=
  ⟨hF m (mem_of_find? h).1, (mem_of_find? h).2⟩

end EditorProtocol
