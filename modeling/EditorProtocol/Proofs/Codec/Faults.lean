import EditorProtocol.Proofs.Codec.Soundness

/-!
What keeps a dictionary from being a record is a rule that it breaks or a fault of the types: a
bound on a value without an order, or an order that cannot be told. It is never a mismatch, as types
know nothing of shapes, so every mismatch that decoding ends with was found by decoding itself.
-/

namespace EditorProtocol

variable {F : Family} {v w : Value}

/-- Whether a fault is one of bounds and orders. -/
def Fault.isStray : Fault → Bool
  | .unbounded _ _ => true
  | .incomparable _ _ => true
  | .noAttribute _ _ => true
  | _ => false

/-- No fault came out but one of bounds and orders. -/
def Strays {α : Type} (r : Except Rejection α) : Prop :=
  ∀ f, r = .error (.fault f) → f.isStray = true

namespace Strays

variable {α β : Type}

theorem ok (a : α) : Strays (.ok a : Except Rejection α) := by
  rintro f ⟨⟩

theorem violations (vs : List Violation) :
    Strays (.error (.violations vs) : Except Rejection α) := by
  rintro f ⟨⟩

theorem answered {r : Except Rejection α} (h : Answered r) : Strays r := by
  cases h with
  | ok a => exact ok a
  | refused vs => exact violations vs

theorem bind {r : Except Rejection α} {f : α → Except Rejection β} (h : Strays r)
    (hf : ∀ a, Strays (f a)) : Strays (r >>= f) := by
  cases r with
  | ok a => exact hf a
  | error rejection =>
      rintro f ⟨⟩
      exact h f rfl

theorem under {r : Except Rejection α} (h : Strays r) (segment : Segment) :
    Strays (r.mapError (.under segment)) := by
  rcases r with (vs | f) | a
  · exact violations _
  · exact h
  · exact ok a

theorem collect {r : Except Rejection α} (h : Strays r) : Strays (Rejection.collect r) := by
  rcases r with (vs | f) | a
  · exact ok _
  · rintro g ⟨⟩
    exact h f rfl
  · exact ok _

end Strays

/-! ### Bounds and orders -/

theorem Mark.checkBound_strays (v : Value) (kind : BoundKind) (n : Int) :
    Strays (checkBound v kind n) := by
  unfold checkBound
  split
  · rintro f ⟨⟩
    rfl
  · split
    · exact .ok ()
    · exact .violations _

theorem Strays.forM {α : Type} {xs : List α} {f : α → Except Rejection Unit}
    (h : ∀ x, Strays (f x)) : Strays (xs.forM f) := by
  induction xs with
  | nil => exact .ok ()
  | cons x rest ih => exact (h x).bind fun _ => ih

theorem TypeExpr.bounded_strays (marks : List Mark) (taken : Fitted) :
    Strays (TypeExpr.fit.bounded marks taken) := by
  unfold TypeExpr.fit.bounded
  refine Strays.bind (.forM fun m => .forM fun kind => ?_) fun _ => .ok taken
  split
  · exact Mark.checkBound_strays _ _ _
  · exact .ok ()

theorem checkOrder_strays (w : Value) (slots : List (Slot Value)) :
    Strays (checkOrder w slots) := by
  unfold checkOrder
  split
  · split
    · rintro f ⟨⟩
      rfl
    · rintro f ⟨⟩
      rfl
    · split
      · exact .violations _
      · rintro f ⟨⟩
        rfl
    · exact .ok ()
  · exact .ok ()

theorem Model.complete_strays (m : Model) (vs : List Violation) (slots : List (Slot Value)) :
    Strays (m.complete w vs slots) := by
  unfold complete
  cases vs with
  | cons b rest => exact .violations _
  | nil =>
      cases m.ordered with
      | false => exact .ok _
      | true => exact (checkOrder_strays w slots).bind fun _ => .ok _

/-! ### Parts -/

theorem fitItems_strays {t : TypeExpr} {xs : List Value}
    (h : ∀ x ∈ xs, Strays (t.fit F [] x)) (i : Nat) : Strays (fitItems F i t xs) := by
  induction xs generalizing i with
  | nil =>
      rw [fitItems]
      exact .ok _
  | cons x rest ih =>
      rw [fitItems]
      refine ((h x (.head _)).under (.index i)).collect.bind fun first => ?_
      refine (ih (fun y hy => h y (.tail x hy)) (i + 1)).collect.bind fun others => ?_
      split
      · exact .ok _
      all_goals exact .violations _

theorem fitFirst_strays {marks : List Mark} {ts : List TypeExpr}
    (h : ∀ t ∈ ts, Strays (t.fit F marks v)) (best : Option Fitted) (failed : List Violation) :
    Strays (fitFirst F marks best failed ts v) := by
  induction ts generalizing best failed with
  | nil =>
      cases best with
      | some taken =>
          rw [fitFirst]
          exact .ok taken
      | none =>
          rw [fitFirst]
          exact .violations failed
  | cons t rest ih =>
      have hrest := ih fun u hu => h u (.tail t hu)
      rw [fitFirst]
      split
      · exact hrest best failed
      · refine (h t (.head _)).collect.bind fun first => ?_
        split
        · exact hrest best _
        · split
          · exact .ok _
          · exact hrest _ failed

theorem fitFields_strays {byName : Bool} {ds : List FieldDecl}
    (h : ∀ d ∈ ds, ∀ key item, d.given? byName w = some (key, item) →
      Strays (d.type.fit F [] item)) : Strays (fitFields F byName w ds) := by
  induction ds with
  | nil =>
      rw [fitFields]
      exact .ok _
  | cons d rest ih =>
      have hrest := ih fun e he => h e (.tail d he)
      rw [fitFields]
      split
      · next key item hgiven =>
        refine ((h d (.head _) key item hgiven).under (.key key)).collect.bind fun first => ?_
        refine hrest.bind fun others => ?_
        dsimp only
        split <;> exact .ok _
      · refine hrest.bind fun others => ?_
        dsimp only
        split <;> exact .ok _

/-! ### Types and records -/

theorem fit_strays (F : Family) (marks : List Mark) (t : TypeExpr) (v : Value) :
    Strays (t.fit F marks v) := by
  cases t with
  | marked u own =>
      rw [TypeExpr.fit]
      exact fit_strays F (own ++ marks) u v
  | named name u =>
      rw [TypeExpr.fit]
      exact fit_strays F marks u v
  | integer =>
      rw [TypeExpr.fit]
      exact .answered (v.fitInteger_answered marks)
  | float =>
      rw [TypeExpr.fit]
      exact .answered (v.fitFloat_answered marks)
  | any =>
      rw [TypeExpr.fit]
      exact TypeExpr.bounded_strays _ _
  | null =>
      rw [TypeExpr.fit]
      exact .bind (.answered v.fitNull_answered) (TypeExpr.bounded_strays marks)
  | boolean =>
      rw [TypeExpr.fit]
      exact .bind (.answered v.fitBoolean_answered) (TypeExpr.bounded_strays marks)
  | text =>
      rw [TypeExpr.fit]
      exact .bind (.answered v.fitText_answered) (TypeExpr.bounded_strays marks)
  | enumeration type =>
      rw [TypeExpr.fit]
      exact .bind (.answered (v.fitMember_answered type)) (TypeExpr.bounded_strays marks)
  | literal codes =>
      rw [TypeExpr.fit]
      exact .bind (.answered (v.fitCode_answered codes)) (TypeExpr.bounded_strays marks)
  | list =>
      rw [TypeExpr.fit.eq_def]
      dsimp only
      split
      · exact TypeExpr.bounded_strays _ _
      · exact TypeExpr.bounded_strays _ _
      · exact .violations _
  | sequence u =>
      have hitem : ∀ xs, (v = .list xs ∨ v = .tuple xs) → ∀ x ∈ xs, Strays (u.fit F [] x) :=
        fun xs hv x hx => fit_strays F [] u x
      rw [TypeExpr.fit.eq_def]
      dsimp only
      split
      · next xs =>
        exact (fitItems_strays (hitem xs (.inl rfl)) 0).bind fun _ =>
          TypeExpr.bounded_strays _ _
      · next xs =>
        exact (fitItems_strays (hitem xs (.inr rfl)) 0).bind fun _ =>
          TypeExpr.bounded_strays _ _
      · exact .violations _
  | model ref =>
      have hfields : ∀ m : Model, Strays (fitFields F m.byName v m.fields) :=
        fun m => fitFields_strays fun d _ key item hgiven => fit_strays F [] d.type item
      rw [TypeExpr.fit.eq_def]
      dsimp only
      split
      · split
        · exact TypeExpr.bounded_strays _ _
        · exact .violations _
      · split
        · split
          · exact .ok _
          · next m _ =>
            refine (hfields m).bind fun taken => ?_
            exact (m.complete_strays _ _).bind fun _ => TypeExpr.bounded_strays _ _
        · exact .violations _
  | union members barred =>
      have hmember : ∀ marks, ∀ t ∈ members, Strays (t.fit F marks v) :=
        fun marks t ht => fit_strays F marks t v
      rw [TypeExpr.fit]
      split
      · exact .ok _
      · split
        · exact fitFirst_strays (hmember marks) none []
        · exact (fitFirst_strays (hmember []) none []).bind (TypeExpr.bounded_strays marks)
  | foreign name =>
      rw [TypeExpr.fit]
      exact .ok _
  | mapping key value =>
      rw [TypeExpr.fit]
      exact .ok _
  | shaped shape =>
      rw [TypeExpr.fit]
      exact .ok _
termination_by (sizeOf v, sizeOf t)
decreasing_by
  · exact Prod.Lex.left _ _ (FieldDecl.sizeOf_lt_of_given? hgiven)
  all_goals subst_vars
  · have := List.sizeOf_lt_of_mem ht
    exact Prod.Lex.right _ (by simp only [TypeExpr.union.sizeOf_spec]; omega)
  · have := List.sizeOf_lt_of_mem hx
    rcases hv with rfl | rfl
    · exact Prod.Lex.left _ _ (by simp only [Value.list.sizeOf_spec]; omega)
    · exact Prod.Lex.left _ _ (by simp only [Value.tuple.sizeOf_spec]; omega)
  all_goals exact Prod.Lex.right _ (by simp +arith)

/-- What keeps values from being a record of a model is a broken rule, or a fault of bounds and
orders. -/
theorem Model.make_strays (F : Family) (m : Model) (values : List (String × Value)) :
    Strays (m.make F values) := by
  unfold make validate
  refine (fitFields_strays fun d _ _ item _ => fit_strays F [] d.type item).bind ?_
  exact fun taken => m.complete_strays _ _

end EditorProtocol
