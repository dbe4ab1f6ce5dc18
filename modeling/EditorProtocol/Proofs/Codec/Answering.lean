import EditorProtocol.Proofs.Codec.Validation

/-!
Sound types take or refuse. Whatever tame value a sound type is given, it takes it or names the
rules that it breaks: bounds are asked of integers only, and orders of positions.
-/

namespace EditorProtocol

variable {F : Family}

theorem TypeExpr.sizeOf_lt_of_mem {t : TypeExpr} {members : List TypeExpr} (barred : Bool)
    (ht : t ∈ members) : sizeOf t < sizeOf (TypeExpr.union members barred) := by
  have := List.sizeOf_lt_of_mem ht
  simp only [union.sizeOf_spec]
  omega

/-- A union takes or refuses a value if its members do. -/
theorem fitFirst_answered {marks : List Mark} {v : Value} {ts : List TypeExpr}
    (h : ∀ t ∈ ts, t.isNull = false → Answered (t.fit F marks v)) (best : Option Fitted)
    (failed : List Violation) : Answered (fitFirst F marks best failed ts v) := by
  induction ts generalizing best failed with
  | nil =>
      cases best with
      | none =>
          rw [fitFirst]
          exact .refused failed
      | some b =>
          rw [fitFirst]
          exact .ok b
  | cons t rest ih =>
      have hrest := ih fun u hu => h u (List.mem_cons_of_mem t hu)
      rw [fitFirst]
      split
      · exact hrest best failed
      · next hnull =>
        obtain ⟨first, hfirst⟩ :=
          (h t List.mem_cons_self (Bool.eq_false_iff.2 hnull)).collect
        rw [hfirst, ok_bind]
        cases first with
        | error vs => exact hrest best _
        | ok taken =>
            dsimp only
            split
            · exact .ok taken
            · exact hrest _ failed

theorem fitItems_answered {u : TypeExpr} {xs : List Value}
    (h : ∀ x ∈ xs, Answered (u.fit F [] x)) (i : Nat) : Answered (fitItems F i u xs) := by
  induction xs generalizing i with
  | nil =>
      rw [fitItems]
      exact .ok _
  | cons x rest ih =>
      obtain ⟨first, hfirst⟩ := ((h x List.mem_cons_self).under (.index i)).collect
      obtain ⟨others, hothers⟩ := (ih (fun y hy => h y (List.mem_cons_of_mem x hy)) (i + 1)).collect
      rw [fitItems, hfirst, hothers]
      cases first with
      | ok y =>
          cases others with
          | ok taken => exact .ok _
          | error ws => exact .refused _
      | error vs =>
          cases others with
          | ok taken => exact .refused _
          | error ws => exact .refused _

/-- A record of a model is taken or refused if the values of its fields are. -/
theorem fit_model_answered (hF : F.Sound) {ref : ModelRef} {marks : List Mark} {v : Value}
    (hfree : marks.all Mark.isFree = true) (hv : v.IsTame)
    (h : v.isObject = true → ∀ m, F.find? ref = some m → ∀ d ∈ m.fields, ∀ key x,
      d.given? m.byName v = some (key, x) → Answered (d.type.fit F [] x)) :
    Answered ((TypeExpr.model ref).fit F marks v) := by
  rw [TypeExpr.fit.eq_def]
  dsimp only
  split
  · split
    · rw [TypeExpr.bounded_free hfree]
      exact .ok _
    · exact .refused _
  · split
    · next hobject =>
      have hw := hv.object hobject
      split
      · exact .ok _
      · next m hm =>
        have hmodel := (hF.model hm).1
        obtain ⟨vs, slots, htaken⟩ := fitFields_answered (h hobject m hm)
        rw [htaken, ok_bind]
        dsimp only
        refine (Model.complete_answered fun hvs hordered => ?_).bind fun value _ => ?_
        -- The order is only looked at if no rule is broken, and then of two positions.
        · subst hvs
          exact checkOrder_answered hmodel.keyed.names (hmodel.start hordered)
            (hmodel.stop hordered) (fun d hd own htype hpos x r hat hr =>
              (hw.placed hF hpos hat hr).imp fun p hp => hp.1) htaken
        · rw [TypeExpr.bounded_free hfree]
          exact .ok _
    · exact .refused _

/-- A sound type takes or refuses every tame value. -/
theorem fit_answered (hF : F.Sound) (t : TypeExpr) {choice : Bool} {marks : List Mark} {v : Value}
    (hsound : t.isSound choice marks = true) (hv : v.IsTame) : Answered (t.fit F marks v) := by
  cases t with
  | marked u own =>
      rw [TypeExpr.fit]
      exact fit_answered hF u hsound hv
  | named name u =>
      rw [TypeExpr.fit]
      exact fit_answered hF u hsound hv
  | integer =>
      rw [TypeExpr.fit]
      exact v.fitInteger_answered marks
  | float =>
      rw [TypeExpr.fit]
      exact v.fitFloat_answered marks
  | any =>
      rw [TypeExpr.fit, TypeExpr.bounded_free hsound]
      exact .ok _
  | null =>
      rw [TypeExpr.fit]
      exact TypeExpr.bounded_answered hsound v.fitNull_answered
  | boolean =>
      rw [TypeExpr.fit]
      exact TypeExpr.bounded_answered hsound v.fitBoolean_answered
  | text =>
      rw [TypeExpr.fit]
      exact TypeExpr.bounded_answered hsound v.fitText_answered
  | enumeration type =>
      rw [TypeExpr.fit]
      exact TypeExpr.bounded_answered hsound (v.fitMember_answered type)
  | literal codes =>
      rw [TypeExpr.fit]
      exact TypeExpr.bounded_answered (Bool.and_eq_true_iff.1 hsound).1 (v.fitCode_answered codes)
  | list =>
      rw [TypeExpr.fit.eq_def]
      dsimp only
      split
      · rw [TypeExpr.bounded_free hsound]
        exact .ok _
      · rw [TypeExpr.bounded_free hsound]
        exact .ok _
      · exact .refused _
  | sequence u =>
      obtain ⟨hfree, hu⟩ := Bool.and_eq_true_iff.1 hsound
      rw [TypeExpr.fit.eq_def]
      dsimp only
      split
      · next xs =>
        refine (fitItems_answered (fun x hx => fit_answered hF u hu (hv.items x hx)) 0).bind ?_
        rintro ⟨fit, ys⟩ _
        dsimp only
        rw [TypeExpr.bounded_free hfree]
        exact .ok _
      · cases hv with
        | wire wire => cases wire
      · exact .refused _
  | model ref =>
      refine fit_model_answered hF hsound hv fun hobject m hm d hd key x hgiven => ?_
      obtain ⟨k, hk⟩ := FieldDecl.at?_of_given? hgiven
      exact fit_answered hF d.type ((hF.model hm).1.types d hd) (.wire ((hv.object hobject).at? hk))
  | union members barred =>
      rw [TypeExpr.isSound] at hsound
      rw [TypeExpr.fit]
      split
      · exact .ok _
      · split
        · next hsingle =>
          rw [if_pos hsingle] at hsound
          exact fitFirst_answered (fun t ht hnull =>
            fit_answered hF t (TypeExpr.areSound_mem hsound ht hnull) hv) none []
        · next hsingle =>
          rw [if_neg hsingle, Bool.and_eq_true] at hsound
          refine TypeExpr.bounded_answered hsound.1 (fitFirst_answered (fun t ht hnull =>
            fit_answered hF t (TypeExpr.areSound_mem hsound.2 ht hnull) hv) none [])
  | foreign name =>
      rw [TypeExpr.fit]
      exact .ok _
  | mapping key value =>
      rw [TypeExpr.fit]
      exact .ok _
  | shaped shape =>
      rw [TypeExpr.fit]
      exact .ok _
termination_by (sizeOf v, sizeOf t)
decreasing_by
  · exact Prod.Lex.left _ _ (Value.sizeOf_lt_of_at? hk)
  all_goals subst_vars
  · exact Prod.Lex.right _ (TypeExpr.sizeOf_lt_of_mem barred ht)
  · exact Prod.Lex.right _ (TypeExpr.sizeOf_lt_of_mem barred ht)
  · exact Prod.Lex.left _ _ (Value.sizeOf_lt_of_mem hx)
  · exact Prod.Lex.right _ (by simp +arith)
  · exact Prod.Lex.right _ (by simp +arith)

/-- An admitted dictionary is taken for a record of a sound model, or breaks its rules. -/
theorem Model.validate_sound (hF : F.Sound) {ref : ModelRef} {m : Model} {w : Value}
    (hfind : F.find? ref = some m) (hw : w.IsWire) (hobject : w.isObject = true) :
    Answered (m.validate F w) := by
  have hsound : (TypeExpr.model ref).isSound false [] = true := rfl
  have hfit := fit_answered hF _ hsound (.wire hw)
  rw [fit_object hfind hobject] at hfit
  rw [m.validate_eq hobject]
  cases hfields : fitFields F m.byName w m.fields with
  | error rejection =>
      rw [hfields] at hfit
      cases hfit
      exact .refused _
  | ok taken =>
      rw [hfields, ok_bind] at hfit
      rw [ok_bind]
      cases hcomplete : m.complete w taken.1 taken.2 with
      | ok v => exact .ok v
      | error rejection =>
          rw [hcomplete] at hfit
          cases hfit
          exact .refused _

end EditorProtocol
