import EditorProtocol.Proofs.Codec.Validation
import EditorProtocol.Proofs.Shape.Wire

/-!
Types that have a shape say which rule a value breaks. Only a choice between no types refuses a
value without a word, and it has no shape; so where no rule is broken, every field was taken.
-/

namespace EditorProtocol

variable {F : Family}

/-- No rules are broken in silence. -/
def Loud {α : Type} (r : Except Rejection α) : Prop := r ≠ .error (.violations [])

namespace Loud

variable {α β : Type}

theorem ok (a : α) : Loud (.ok a : Except Rejection α) := nofun

theorem broken (v : Value) (b : Breach) : Loud (Rejection.broken v b : Except Rejection α) := by
  intro h
  cases h

theorem fault (f : Fault) : Loud (.error (.fault f) : Except Rejection α) := nofun

theorem bind {r : Except Rejection α} {f : α → Except Rejection β} (h : Loud r)
    (hf : ∀ a, Loud (f a)) : Loud (r >>= f) := by
  cases r with
  | ok a => exact hf a
  | error rejection =>
      intro hsilent
      cases hsilent
      exact h rfl

theorem ofReading (v : Value) (read : Except Breach α) (make : α → Value) :
    Loud (Fitted.ofReading v read make) := by
  cases read with
  | ok a => exact .ok _
  | error b => exact .broken v b

theorem under {r : Except Rejection α} (h : Loud r) (segment : Segment) :
    Loud (r.mapError (.under segment)) := by
  intro hsilent
  cases r with
  | ok a => cases hsilent
  | error rejection =>
      cases rejection with
      | fault f => cases hsilent
      | violations vs =>
          cases vs with
          | nil => exact h rfl
          | cons v vs => cases hsilent

/-- The rules that are collected are some. -/
theorem collected {r : Except Rejection α} (h : Loud r) {vs : List Violation}
    (hcollect : Rejection.collect r = .ok (.error vs)) : vs ≠ [] := by
  rintro rfl
  cases r with
  | ok a => cases hcollect
  | error rejection =>
      cases rejection with
      | fault f => cases hcollect
      | violations ws =>
          cases hcollect
          exact h rfl

end Loud

/-! ### Scalars -/

theorem Loud.forM {α : Type} {xs : List α} {f : α → Except Rejection Unit}
    (h : ∀ x, Loud (f x)) : Loud (xs.forM f) := by
  induction xs with
  | nil => exact .ok ()
  | cons x rest ih => exact (h x).bind fun _ => ih

theorem Mark.checkBound_loud (v : Value) (kind : BoundKind) (n : Int) :
    Loud (checkBound v kind n) := by
  unfold checkBound
  split
  · exact .fault _
  · split
    · exact .ok _
    · exact .broken _ _

theorem Mark.check_loud (marks : List Mark) (v : Value) : Loud (Mark.check marks v) := by
  unfold Mark.check
  refine .forM fun m => .forM fun kind => ?_
  split
  · exact checkBound_loud _ _ _
  · exact .ok _

theorem TypeExpr.bounded_loud (marks : List Mark) (taken : Fitted) :
    Loud (TypeExpr.fit.bounded marks taken) := by
  unfold TypeExpr.fit.bounded
  exact (Mark.check_loud marks _).bind fun _ => .ok _

namespace Value

variable (v : Value)

theorem fitNull_loud : Loud v.fitNull := by
  unfold fitNull
  split
  · exact .ok _
  · exact .broken _ _

theorem fitBoolean_loud : Loud v.fitBoolean := by
  unfold fitBoolean
  split
  · exact .ok _
  · exact .ofReading _ _ _

theorem fitFloat_loud (marks : List Mark) : Loud (v.fitFloat marks) := by
  unfold fitFloat
  split
  · exact .broken _ _
  · split
    · exact .broken _ _
    · split
      · exact .ok _
      · exact .ok _
      · exact .ok _

theorem fitText_loud : Loud v.fitText := by
  unfold fitText
  split
  · exact .ok _
  · exact .ok _
  · exact .ok _
  · exact .ofReading _ _ _

theorem found_loud (m? : Option EnumMember) (b : Breach) : Loud (match m? with
    | some m => .ok (⟨.member m, .loose⟩ : Fitted)
    | none => Rejection.broken v b) := by
  cases m? with
  | some m => exact .ok _
  | none => exact .broken _ _

theorem fitMember_loud (type : EnumType) : Loud (v.fitMember type) := by
  have hbyCode : ∀ w, Loud (fitMember.byCode w type.base
      (.notMember (type.members.map (·.code.render))) fun code =>
        match type.members.find? fun m => (ofScalar m.code).same code with
        | some m => .ok (⟨.member m, .loose⟩ : Fitted)
        | none => Rejection.broken v (.notMember (type.members.map (·.code.render)))) := by
    intro w
    unfold fitMember.byCode
    split
    · exact v.found_loud _ _
    · split
      · exact v.found_loud _ _
      · exact .broken _ _
    · split
      · split
        · exact .broken _ _
        · exact v.found_loud _ _
      · split
        · exact v.found_loud _ _
        · exact .broken _ _
  unfold fitMember
  split
  · split
    · exact .ok _
    · exact hbyCode _
  · exact hbyCode _

theorem fitCode_loud (codes : List Code) : Loud (v.fitCode codes) := by
  unfold fitCode
  simp only
  split
  · exact .ok _
  · exact .broken _ _

end Value

/-! ### Parts -/

theorem fitItems_loud {u : TypeExpr} {xs : List Value} (h : ∀ x, Loud (u.fit F [] x)) (i : Nat) :
    Loud (fitItems F i u xs) := by
  induction xs generalizing i with
  | nil =>
      rw [fitItems]
      exact .ok _
  | cons x rest ih =>
      rw [fitItems]
      intro hsilent
      cases hfirst : Rejection.collect ((u.fit F [] x).mapError (.under (.index i))) with
      | error rejection =>
          rw [hfirst] at hsilent
          cases hsilent
          exact collect_ne_violations hfirst
      | ok first =>
          rw [hfirst, ok_bind] at hsilent
          cases hrest : Rejection.collect (fitItems F (i + 1) u rest) with
          | error rejection =>
              rw [hrest] at hsilent
              cases hsilent
              exact collect_ne_violations hrest
          | ok others =>
              rw [hrest, ok_bind] at hsilent
              -- Whichever of the two broke rules broke some.
              cases first with
              | error vs =>
                  have hvs := ((h x).under (.index i)).collected hfirst
                  cases others with
                  | ok taken =>
                      cases hsilent
                      exact hvs rfl
                  | error ws =>
                      have hnil : vs ++ ws = [] :=
                        Rejection.violations.inj (Except.error.inj hsilent)
                      exact hvs (List.append_eq_nil_iff.1 hnil).1
              | ok y =>
                  cases others with
                  | ok taken => cases hsilent
                  | error ws =>
                      cases hsilent
                      exact (ih (i + 1)).collected hrest rfl

/-- A choice between some types tells why none of them takes a value. -/
theorem fitFirst_loud {marks : List Mark} {v : Value} {ts : List TypeExpr}
    (h : ∀ t ∈ ts, t.isNull = false → Loud (t.fit F marks v)) (best : Option Fitted)
    (failed : List Violation)
    (hsome : best.isSome = true ∨ failed ≠ [] ∨ ∃ t ∈ ts, t.isNull = false) :
    Loud (fitFirst F marks best failed ts v) := by
  induction ts generalizing best failed with
  | nil =>
      cases best with
      | some b =>
          rw [fitFirst]
          exact .ok _
      | none =>
          rw [fitFirst]
          intro hsilent
          cases hsilent
          rcases hsome with hbest | hfailed | ⟨t, ht, _⟩
          · cases hbest
          · exact hfailed rfl
          · cases ht
  | cons t rest ih =>
      have hrest := ih fun u hu => h u (List.mem_cons_of_mem t hu)
      rw [fitFirst]
      split
      · next hnull =>
        refine hrest best failed (hsome.imp_right (Or.imp_right ?_))
        rintro ⟨u, hu, hkept⟩
        rcases List.mem_cons.1 hu with rfl | hu
        · rw [hkept] at hnull
          cases hnull
        · exact ⟨u, hu, hkept⟩
      · next hnull =>
        have ht := h t List.mem_cons_self (Bool.eq_false_iff.2 hnull)
        cases hfirst : Rejection.collect (t.fit F marks v) with
        | error rejection =>
            intro hsilent
            cases hsilent
            exact collect_ne_violations hfirst
        | ok first =>
            cases first with
            | error vs =>
                refine hrest best _ (.inr (.inl fun hnil => ?_))
                exact ht.collected hfirst (List.append_eq_nil_iff.1 hnil).2
            | ok taken =>
                rw [ok_bind]
                dsimp only
                split
                · exact .ok _
                · exact hrest _ failed (.inl rfl)

/-- A type that has a shape never refuses a value in silence. -/
theorem fit_loud (t : TypeExpr) {marks : List Mark} {s : Shape}
    (hshape : t.shapeUnder marks = .ok s) (v : Value) : Loud (t.fit F marks v) := by
  cases t with
  | marked u own =>
      rw [TypeExpr.fit]
      exact fit_loud u hshape v
  | named name u =>
      rw [TypeExpr.fit]
      exact fit_loud u hshape v
  | integer =>
      rw [TypeExpr.fit]
      exact v.fitInteger_loud marks
  | float =>
      rw [TypeExpr.fit]
      exact v.fitFloat_loud marks
  | any =>
      rw [TypeExpr.fit]
      exact TypeExpr.bounded_loud _ _
  | null =>
      rw [TypeExpr.fit]
      exact v.fitNull_loud.bind (TypeExpr.bounded_loud marks)
  | boolean =>
      rw [TypeExpr.fit]
      exact v.fitBoolean_loud.bind (TypeExpr.bounded_loud marks)
  | text =>
      rw [TypeExpr.fit]
      exact v.fitText_loud.bind (TypeExpr.bounded_loud marks)
  | enumeration type =>
      rw [TypeExpr.fit]
      exact (v.fitMember_loud type).bind (TypeExpr.bounded_loud marks)
  | literal codes =>
      rw [TypeExpr.fit]
      exact (v.fitCode_loud codes).bind (TypeExpr.bounded_loud marks)
  | list =>
      rw [TypeExpr.fit.eq_def]
      dsimp only
      split
      · exact TypeExpr.bounded_loud _ _
      · exact TypeExpr.bounded_loud _ _
      · exact .broken _ _
  | sequence u =>
      obtain ⟨element, helement, _⟩ := bind_eq_ok.1 hshape
      have hitem := fun x => fit_loud u helement x
      rw [TypeExpr.fit.eq_def]
      dsimp only
      split
      · exact (fitItems_loud hitem 0).bind fun _ => TypeExpr.bounded_loud _ _
      · exact (fitItems_loud hitem 0).bind fun _ => TypeExpr.bounded_loud _ _
      · exact .broken _ _
  | model ref =>
      rw [TypeExpr.fit.eq_def]
      dsimp only
      split
      · split
        · exact TypeExpr.bounded_loud _ _
        · exact .broken _ _
      · split
        · split
          · exact .ok _
          · next m hm =>
            refine Loud.bind fitFields_ne_violations fun taken => ?_
            exact Loud.bind Model.complete_loud fun _ => TypeExpr.bounded_loud _ _
        · exact .broken _ _
  | union members barred =>
      obtain ⟨inner, _, hinner⟩ := TypeExpr.shapeUnder_union_inv hshape
      have hmember := TypeExpr.exists_member hshape
      rw [TypeExpr.fit]
      split
      · exact .ok _
      · split
        · next hsingle =>
          rw [if_pos hsingle] at hinner
          refine fitFirst_loud (fun t ht hnull => ?_) none [] (.inr (.inr hmember))
          obtain ⟨r, _, hr⟩ := TypeExpr.shapesUnder_mem hinner ht hnull
          exact fit_loud t hr v
        · next hsingle =>
          rw [if_neg hsingle] at hinner
          obtain ⟨shapes, hshapes, _⟩ := hinner
          refine Loud.bind (fitFirst_loud (fun t ht hnull => ?_) none [] (.inr (.inr hmember)))
            (TypeExpr.bounded_loud marks)
          obtain ⟨r, _, hr⟩ := TypeExpr.shapesUnder_mem hshapes ht hnull
          exact fit_loud t hr v
  | foreign name =>
      rw [TypeExpr.fit]
      exact .ok _
  | mapping key value =>
      rw [TypeExpr.fit]
      exact .ok _
  | shaped shape =>
      rw [TypeExpr.fit]
      exact .ok _

end EditorProtocol
