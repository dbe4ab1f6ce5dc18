import EditorProtocol.Proofs.Codec.Scalar
import EditorProtocol.Proofs.Shape.Wire

/-!
Bounds of integers. An integer type may carry marks in any nesting of marks, names and unions with
null, and all of them count: what the type is declared for are the integers within all bounds. The
shape of the type keeps one bound on either side, the last one, so it takes just these integers if
no tighter bound comes before, and more of them otherwise.
-/

namespace EditorProtocol

/-! ### Marks -/

namespace Mark

variable {marks : List Mark} {n : Int}

/-- Whether an integer is within the bounds that a mark sets. -/
def Satisfied (n : Int) : Mark → Prop
  | .bounds atLeast above atMost below =>
    (∀ k ∈ atLeast, k ≤ n) ∧ (∀ k ∈ above, k < n) ∧ (∀ k ∈ atMost, n ≤ k) ∧ ∀ k ∈ below, n < k
  | _ => True

/-- The least integers within the lower bounds of a mark, in the order in which the bounds are
looked at. -/
def lowers : Mark → List Int
  | .bounds atLeast above _ _ => atLeast.toList ++ (above.map (· + 1)).toList
  | _ => []

/-- The greatest integers within the upper bounds of a mark, in the order in which the bounds are
looked at. -/
def uppers : Mark → List Int
  | .bounds _ _ atMost below => atMost.toList ++ (below.map (· - 1)).toList
  | _ => []

theorem satisfied_iff (m : Mark) :
    m.Satisfied n ↔ (∀ k ∈ m.lowers, k ≤ n) ∧ ∀ k ∈ m.uppers, n ≤ k := by
  have above_iff : ∀ k : Int, k + 1 ≤ n ↔ k < n := fun _ => Int.add_one_le_iff
  have below_iff : ∀ k : Int, n ≤ k - 1 ↔ n < k := fun _ => Int.le_sub_one_iff
  cases m with
  | bounds atLeast above atMost below =>
      cases atLeast <;> cases above <;> cases atMost <;> cases below <;>
        simp [Satisfied, lowers, uppers, above_iff, below_iff, and_assoc]
  | _ => simp [Satisfied, lowers, uppers]

theorem all_satisfied_iff : (∀ m ∈ marks, m.Satisfied n) ↔
    (∀ k ∈ marks.flatMap lowers, k ≤ n) ∧ ∀ k ∈ marks.flatMap uppers, n ≤ k := by
  simp only [satisfied_iff, List.mem_flatMap]
  constructor
  · intro h
    exact ⟨fun k ⟨m, hm, hk⟩ => (h m hm).1 k hk, fun k ⟨m, hm, hk⟩ => (h m hm).2 k hk⟩
  · rintro ⟨hlow, hhigh⟩ m hm
    exact ⟨fun k hk => hlow k ⟨m, hm, hk⟩, fun k hk => hhigh k ⟨m, hm, hk⟩⟩

/-- A bound that each mark may replace is, after all of them, the last one that was set. -/
theorem foldl_eq_getLast? {step : Option Int → Mark → Option Int} {bounds : Mark → List Int}
    (hstep : ∀ kept m, step kept m = (bounds m).getLast?.or kept) (kept : Option Int) :
    marks.foldl step kept = (marks.flatMap bounds).getLast?.or kept := by
  induction marks generalizing kept with
  | nil => rfl
  | cons m rest ih =>
      rw [List.foldl_cons, ih, hstep, List.flatMap_cons, List.getLast?_append, Option.or_assoc]

theorem minimum_eq (marks : List Mark) : minimum marks = (marks.flatMap lowers).getLast? := by
  unfold minimum
  refine (foldl_eq_getLast? (fun kept m => ?_) none).trans (Option.or_none)
  cases m with
  | bounds atLeast above atMost below => cases atLeast <;> cases above <;> rfl
  | _ => rfl

theorem maximum_eq (marks : List Mark) : maximum marks = (marks.flatMap uppers).getLast? := by
  unfold maximum
  refine (foldl_eq_getLast? (fun kept m => ?_) none).trans (Option.or_none)
  cases m with
  | bounds atLeast above atMost below => cases atMost <;> cases below <;> rfl
  | _ => rfl

/-- Whether an integer is within the last bound on either side. -/
def Within (marks : List Mark) (n : Int) : Prop :=
  (∀ low, (marks.flatMap lowers).getLast? = some low → low ≤ n) ∧
    ∀ high, (marks.flatMap uppers).getLast? = some high → n ≤ high

/-- The last bound on either side is the tightest one. -/
structure Tight (marks : List Mark) : Prop where
  low : ∀ low, (marks.flatMap lowers).getLast? = some low → ∀ k ∈ marks.flatMap lowers, k ≤ low
  high : ∀ high, (marks.flatMap uppers).getLast? = some high →
    ∀ k ∈ marks.flatMap uppers, high ≤ k

/-- What is within all bounds is within the last ones. -/
theorem Within.of_satisfied (h : ∀ m ∈ marks, m.Satisfied n) : Within marks n := by
  obtain ⟨hlow, hhigh⟩ := all_satisfied_iff.1 h
  exact ⟨fun k hk => hlow k (List.mem_of_getLast? hk), fun k hk => hhigh k (List.mem_of_getLast? hk)⟩

theorem exists_getLast? {bounds : List Int} {k : Int} (hk : k ∈ bounds) :
    ∃ last, bounds.getLast? = some last :=
  ⟨_, List.getLast?_eq_some_getLast (List.ne_nil_of_mem hk)⟩

theorem Tight.satisfied (h : Tight marks) (hn : Within marks n) :
    ∀ m ∈ marks, m.Satisfied n := by
  refine all_satisfied_iff.2 ⟨fun k hk => ?_, fun k hk => ?_⟩
  · obtain ⟨low, hlow⟩ := exists_getLast? hk
    exact Int.le_trans (h.low low hlow k hk) (hn.1 low hlow)
  · obtain ⟨high, hhigh⟩ := exists_getLast? hk
    exact Int.le_trans (hn.2 high hhigh) (h.high high hhigh k hk)

/-- The last bounds stand for all of them just if they are the tightest ones, or if nothing is
within them at all. -/
theorem within_iff_satisfied :
    (∀ n, Within marks n ↔ ∀ m ∈ marks, m.Satisfied n) ↔
      Tight marks ∨ ∀ n, ¬ Within marks n := by
  constructor
  · intro h
    rw [or_iff_not_imp_right]
    intro hsome
    obtain ⟨n, hn⟩ := Classical.not_forall_not.1 hsome
    constructor
    · intro low hlow k hk
      have hwithin : Within marks low :=
        ⟨fun l hl => Int.le_of_eq (Option.some.inj (hl.symm.trans hlow)),
          fun high hhigh => Int.le_trans (hn.1 low hlow) (hn.2 high hhigh)⟩
      exact (all_satisfied_iff.1 ((h low).1 hwithin)).1 k hk
    · intro high hhigh k hk
      have hwithin : Within marks high :=
        ⟨fun low hlow => Int.le_trans (hn.1 low hlow) (hn.2 high hhigh),
          fun l hl => Int.le_of_eq (Option.some.inj (hhigh.symm.trans hl))⟩
      exact (all_satisfied_iff.1 ((h high).1 hwithin)).2 k hk
  · rintro (htight | hnone) n
    · exact ⟨htight.satisfied, Within.of_satisfied⟩
    · exact ⟨fun hn => (hnone n hn).elim, fun h => (hnone n (Within.of_satisfied h)).elim⟩

end Mark

/-! ### Types of integers -/

/-- The types of integers, each with all the marks that it carries, the innermost ones first. -/
inductive TypeExpr.IntegerWith : TypeExpr → List Mark → Prop
  | integer : IntegerWith .integer []
  | marked {t : TypeExpr} {marks own : List Mark} (h : IntegerWith t marks) :
      IntegerWith (.marked t own) (marks ++ own)
  | named {t : TypeExpr} {marks : List Mark} (name : String) (h : IntegerWith t marks) :
      IntegerWith (.named name t) marks
  | optional {t : TypeExpr} {members : List TypeExpr} {marks : List Mark} (barred : Bool)
      (only : members.filter (!·.isNull) = [t]) (h : IntegerWith t marks) :
      IntegerWith (.union members barred) marks

/-- A shape whose values are those of a primitive, and null perhaps. -/
inductive Shape.IsPerhaps (p : Primitive) : Shape → Prop
  | bare : IsPerhaps p (.primitive p)
  | nullable {s : Shape} (h : IsPerhaps p s) : IsPerhaps p (.nullable s)

theorem TypeExpr.shapesUnder_eq_mapM (marks : List Mark) (members : List TypeExpr) :
    shapesUnder marks members = (members.filter (!·.isNull)).mapM (·.shapeUnder marks) := by
  induction members with
  | nil => rfl
  | cons t rest ih =>
      rw [shapesUnder]
      split
      · next hnull => rw [List.filter_cons_of_neg (by simp [hnull]), ih]
      · next hnull =>
        rw [List.filter_cons_of_pos (by simp [hnull]), List.mapM_cons, ih]

/-- The shape of an integer type is an integer within its last bounds, or null perhaps. -/
theorem TypeExpr.IntegerWith.shapeUnder {t : TypeExpr} {marks : List Mark}
    (h : t.IntegerWith marks) (outer : List Mark) :
    ∃ s, t.shapeUnder outer = .ok s ∧
      s.IsPerhaps ⟨.integer, Mark.minimum (marks ++ outer), Mark.maximum (marks ++ outer)⟩ := by
  induction h generalizing outer with
  | integer =>
      rw [TypeExpr.shapeUnder, List.nil_append]
      exact ⟨_, rfl, .bare⟩
  | @marked t marks own _ ih =>
      rw [TypeExpr.shapeUnder, List.append_assoc]
      exact ih (own ++ outer)
  | named name _ ih =>
      rw [TypeExpr.shapeUnder]
      exact ih outer
  | @optional t members marks barred only _ ih =>
      obtain ⟨s, hs, hperhaps⟩ := ih outer
      have hshapes : shapesUnder outer members = .ok [s] := by
        rw [shapesUnder_eq_mapM, only, List.mapM_cons, hs]
        rfl
      have hsingle : ((members.filter (!·.isNull)).length == 1) = true := by
        rw [only]
        rfl
      refine ⟨if members.any (·.isNull) then .nullable s else s, ?_, ?_⟩
      · cases members with
        | nil => cases only
        | cons u rest =>
            rw [TypeExpr.shapeUnder]
            · dsimp only
              rw [if_pos hsingle, hshapes]
              rfl
            · exact fun hnil => by cases hnil
      · split
        · exact .nullable hperhaps
        · exact hperhaps

/-! ### Which integers are taken -/

theorem Primitive.accept_int_iff {p : Primitive} {n : Int} (hkind : p.kind = .integer) :
    (∃ v, p.accept (.int n) = .ok v) ↔
      (∀ k, p.minimum = some k → k ≤ n) ∧ ∀ k, p.maximum = some k → n ≤ k := by
  constructor
  · rintro ⟨v, h⟩
    cases accepts_of_accept h with
    | integer _ hn low high =>
        cases hn
        exact ⟨low, high⟩
    | text kind => cases kind.symm.trans hkind
    | nearest kind => cases kind.symm.trans hkind
  · rintro ⟨low, high⟩
    exact ⟨_, accept_of_conforms (F := default) (.integer hkind n low high)⟩

theorem Shape.IsPerhaps.decode_int {p : Primitive} {s : Shape} (h : s.IsPerhaps p) (F : Family)
    (exact : Bool) (n : Int) :
    (decode F exact (.int n) s).outcome = p.accept (.int n) := by
  induction h with
  | bare => rw [decode, Traced.outcome_of]
  | nullable _ ih =>
      rw [decode]
      exact ih

/-- Of the bounds of an integer type the last one on either side decides: an integer is taken if and
only if it is within these two. All integers within all bounds are taken, whatever the order of the
bounds; others are not just if the last bounds are the tightest ones, unless nothing is taken. -/
theorem last_bounds_decide {t : TypeExpr} {marks : List Mark} (h : t.IntegerWith marks) :
    ∃ s, t.shape = .ok s ∧ ∀ F exact,
      (∀ n, (∃ v, (decode F exact (.int n) s).outcome = .ok v) ↔ Mark.Within marks n) ∧
        (∀ n, (∀ m ∈ marks, m.Satisfied n) →
          ∃ v, (decode F exact (.int n) s).outcome = .ok v) ∧
        ((∀ n, (∃ v, (decode F exact (.int n) s).outcome = .ok v) ↔
            ∀ m ∈ marks, m.Satisfied n) ↔
          Mark.Tight marks ∨ ∀ n v, (decode F exact (.int n) s).outcome ≠ .ok v) := by
  obtain ⟨s, hs, hperhaps⟩ := h.shapeUnder []
  refine ⟨s, hs, fun F exact => ?_⟩
  have htaken : ∀ n, (∃ v, (decode F exact (.int n) s).outcome = .ok v) ↔
      Mark.Within marks n := by
    intro n
    rw [hperhaps.decode_int, Primitive.accept_int_iff rfl, List.append_nil, Mark.minimum_eq,
      Mark.maximum_eq]
    rfl
  refine ⟨htaken, fun n hn => (htaken n).2 (.of_satisfied hn), ?_⟩
  have hnone : (∀ n v, (decode F exact (.int n) s).outcome ≠ .ok v) ↔
      ∀ n, ¬ Mark.Within marks n :=
    forall_congr' fun n => not_exists.symm.trans (not_congr (htaken n))
  rw [hnone, ← Mark.within_iff_satisfied]
  exact forall_congr' fun n => iff_congr (htaken n) Iff.rfl

/-- Bounds of a number of retries, the looser ones first. -/
def retryMarks : List Mark :=
  [.bounds (some 0) none none none, .bounds (some 1) (some 2) none (some 6)]

/-- A number of retries, or null. -/
def retries : TypeExpr := .optional (.named "Retries" (.marked .integer retryMarks))

/-- Three retries are taken, as they are above two. -/
theorem last_bounds_decide_retries :
    retries.IntegerWith retryMarks ∧
      ∃ s, retries.shape = .ok s ∧ ∃ v, (decode ⟨[]⟩ false (.int 3) s).outcome = .ok v := by
  have h : retries.IntegerWith retryMarks :=
    .optional false rfl (.named "Retries" (.marked .integer))
  obtain ⟨s, hs, hdecode⟩ := last_bounds_decide h
  exact ⟨h, s, hs, ((hdecode ⟨[]⟩ false).1 3).2 ⟨by decide, by decide⟩⟩

/-- Bounds of which the second one is looser than the first. -/
def loosenedMarks : List Mark := [.bounds (some 5) none none none, .bounds none (some 0) none none]

/-- An integer type of which both bounds are declared takes an integer that is below one of them. -/
theorem looser_bound_admits :
    (TypeExpr.marked .integer loosenedMarks).IntegerWith loosenedMarks ∧
      (∃ s, (TypeExpr.marked .integer loosenedMarks).shape = .ok s ∧
        (decode ⟨[]⟩ false (.int 3) s).outcome = .ok (.int 3)) ∧
      ¬ ∀ m ∈ loosenedMarks, m.Satisfied 3 := by
  refine ⟨.marked .integer, ⟨_, rfl, ?_⟩, fun h => ?_⟩
  · rw [decode]
    rfl
  · exact absurd ((h _ List.mem_cons_self).1 5 rfl) (by decide)

end EditorProtocol
