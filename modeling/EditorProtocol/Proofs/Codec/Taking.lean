import EditorProtocol.Proofs.Codec.Conformance
import EditorProtocol.Proofs.Codec.Fitting
import EditorProtocol.Proofs.Codec.Outcome

/-!
Taking values of types with parts: the items of a list one by one, the members of a union until one
takes the value exactly. An exact fit leaves a value as it is. The rule that a start does not come
after its end is found kept or broken, and nothing else, as two positions always have an order.
-/

namespace EditorProtocol

variable {F : Family} {marks : List Mark}

/-! ### The order of positions -/

namespace Value

/-- The place of one integer among others, once equal ones are passed over. -/
theorem compareCoordinates_int (l c l' c' : Int) :
    compareCoordinates (.int l, .int c) (.int l', .int c') =
      .ok (some (if l = l' then Ord.compare c c' else Ord.compare l l')) := by
  have hagrees : ∀ a b : Int, (Value.int a).agrees false (.int b) = true ↔ a = b := by
    intro a b
    simp [agrees, text?, numeral?, Numeral.compare?]
  have hparts : ∀ a b : Int, compareParts (.int a) (.int b) = .ok (some (Ord.compare a b)) :=
    fun _ _ => rfl
  unfold compareCoordinates
  simp only [hagrees, hparts]
  by_cases hline : l = l'
  · rw [if_pos hline, if_pos hline]
    by_cases hcharacter : c = c'
    · rw [if_pos hcharacter, Int.compare_eq_eq.2 hcharacter]
    · rw [if_neg hcharacter]
  · rw [if_neg hline, if_neg hline]

/-- Positions compare by line, then by character. -/
theorem IsAt.compare {v w : Value} {p q : Position} (hv : v.IsAt p) (hw : w.IsAt q) :
    v.compare w = .ok (some (if p.line = q.line then Ord.compare p.character q.character
      else Ord.compare p.line q.line)) := by
  obtain ⟨m, ss, rfl, hm, hline, hcharacter⟩ := hv
  obtain ⟨n, ts, rfl, hn, hline', hcharacter'⟩ := hw
  rw [Value.compare, if_pos ⟨hm, hn⟩]
  simp only [coordinates, hline, hcharacter, hline', hcharacter']
  exact compareCoordinates_int _ _ _ _

theorem IsAt.position? {v : Value} {p : Position} (hv : v.IsAt p) : v.position? = some p := by
  obtain ⟨ref, slots, rfl, _, hline, hcharacter⟩ := hv
  simp [Value.position?, hline, hcharacter, integer?]

theorem IsAt.unique {v : Value} {p q : Position} (hp : v.IsAt p) (hq : v.IsAt q) : p = q :=
  Option.some.inj (hp.position?.symm.trans hq.position?)

end Value

namespace Position

theorem upTo_iff {p q : Position} :
    p.upTo q = true ↔
      (if p.line = q.line then compare p.character q.character
        else compare p.line q.line) ≠ .gt := by
  unfold upTo before
  by_cases hline : p.line = q.line
  · rw [if_pos hline, ne_eq, Int.compare_eq_gt]
    simp [hline]
  · rw [if_neg hline, ne_eq, Int.compare_eq_gt]
    simp [Ne.symm hline]

end Position

/-- Asked of two positions, the rule is kept exactly if they are in order. -/
theorem checkOrder_eq {w start stop : Value} {slots : List (Slot Value)} {p q : Position}
    (hstart : Value.attribute? slots "start" = some start)
    (hstop : Value.attribute? slots "end" = some stop) (hp : start.IsAt p) (hq : stop.IsAt q) :
    checkOrder w slots = if p.upTo q then .ok () else Rejection.broken w (.reversed ⟨p, q⟩) := by
  unfold checkOrder
  rw [hstart, hstop]
  simp only [hp.compare hq, hp.position?, hq.position?]
  by_cases horder : p.upTo q = true
  · rw [if_pos horder]
    have hne := Position.upTo_iff.1 horder
    split
    · contradiction
    · contradiction
    · next hgt => exact absurd (Option.some.inj (Except.ok.inj hgt)) hne
    · rfl
  · rw [if_neg horder]
    rw [Position.upTo_iff, not_not] at horder
    rw [horder]

/-! ### Exact fits -/

theorem Fitted.worst_exact {a b : Fit} (h : worst a b = .exact) : a = .exact ∧ b = .exact := by
  cases a <;> cases b <;> first | exact ⟨rfl, rfl⟩ | cases h

theorem Fitted.better_inexact {a b : Fitted} (ha : a.fit ≠ .exact) (hb : b.fit ≠ .exact) :
    (a.better b).fit ≠ .exact := by
  unfold better
  split
  · exact hb
  · exact ha

theorem collect_ok_iff {α : Type} {r : Except Rejection α} {a : α} :
    Rejection.collect r = .ok (.ok a) ↔ r = .ok a := by
  unfold Rejection.collect
  split <;> simp

/-- A sequence is taken if its first item and the others are. -/
theorem fitItems_cons_iff {u : TypeExpr} {i : Nat} {x : Value} {rest zs : List Value} {fit : Fit} :
    fitItems F i u (x :: rest) = .ok (fit, zs) ↔
      ∃ y others ys, u.fit F [] x = .ok y ∧ fitItems F (i + 1) u rest = .ok (others, ys) ∧
        fit = Fitted.worst y.fit others ∧ zs = y.value :: ys := by
  rw [fitItems]
  constructor
  · intro h
    obtain ⟨first, hfirst, h⟩ := bind_eq_ok.1 h
    obtain ⟨others, hothers, h⟩ := bind_eq_ok.1 h
    cases first with
    | error vs => cases others <;> cases h
    | ok y =>
        cases others with
        | error ws => cases h
        | ok taken =>
            obtain ⟨others, ys⟩ := taken
            cases h
            exact ⟨y, others, ys, mapError_ok_iff.1 (collect_ok_iff.1 hfirst),
              collect_ok_iff.1 hothers, rfl, rfl⟩
  · rintro ⟨y, others, ys, hfirst, hothers, rfl, rfl⟩
    rw [hfirst, hothers]
    rfl

/-- The items of a sequence are all taken for themselves if each exact one is. -/
theorem fitItems_exact {u : TypeExpr} {i : Nat} {xs ys : List Value}
    (hu : ∀ {x r}, u.fit F [] x = .ok r → r.fit = .exact → r.value = x)
    (h : fitItems F i u xs = .ok (.exact, ys)) : ys = xs := by
  induction xs generalizing i ys with
  | nil =>
      rw [fitItems] at h
      cases h
      rfl
  | cons x rest ih =>
      obtain ⟨y, others, zs, hfirst, hothers, hfit, rfl⟩ := fitItems_cons_iff.1 h
      obtain ⟨hy, rfl⟩ := Fitted.worst_exact hfit.symm
      rw [hu hfirst hy, ih hothers]

/-- A member that was skipped or lost leaves what the rest of the union makes of the value. -/
theorem fitFirst_cons_inv {best : Option Fitted} {failed : List Violation} {t : TypeExpr}
    {rest : List TypeExpr} {v : Value} {r : Fitted}
    (h : fitFirst F marks best failed (t :: rest) v = .ok r) :
    (t.isNull = true ∧ fitFirst F marks best failed rest v = .ok r) ∨
      (t.isNull = false ∧
        ((∃ vs, fitFirst F marks best (failed ++ vs) rest v = .ok r) ∨
          ∃ taken, t.fit F marks v = .ok taken ∧
            ((taken.fit = .exact ∧ r = taken) ∨
              taken.fit ≠ .exact ∧
                fitFirst F marks (some ((best.map (·.better taken)).getD taken)) failed rest v =
                  .ok r))) := by
  rw [fitFirst] at h
  split at h
  · next hnull => exact .inl ⟨hnull, h⟩
  · next hnull =>
    refine .inr ⟨Bool.eq_false_iff.2 hnull, ?_⟩
    obtain ⟨first, hfirst, h⟩ := bind_eq_ok.1 h
    cases first with
    | error vs => exact .inl ⟨vs, h⟩
    | ok taken =>
        refine .inr ⟨taken, collect_ok_iff.1 hfirst, ?_⟩
        change (if taken.fit = .exact then _ else _) = _ at h
        split at h
        · next hexact => exact .inl ⟨hexact, (Except.ok.inj h).symm⟩
        · next hexact => exact .inr ⟨hexact, h⟩

mutual

/-- A sharp type takes a value exactly only for itself. -/
theorem fit_exact (t : TypeExpr) {marks : List Mark} {v : Value} {r : Fitted}
    (hsharp : t.isSharp = true) (h : t.fit F marks v = .ok r) (hexact : r.fit = .exact) :
    r.value = v := by
  cases t with
  | marked u own =>
      rw [TypeExpr.fit] at h
      exact fit_exact u hsharp h hexact
  | named name u =>
      rw [TypeExpr.fit] at h
      exact fit_exact u hsharp h hexact
  | any => cases hsharp
  | literal => cases hsharp
  | integer =>
      rw [TypeExpr.fit] at h
      obtain ⟨n, hvalue, _, hn, _⟩ := Value.fitInteger_inv h
      rw [hvalue, hn hexact]
  | float =>
      rw [TypeExpr.fit] at h
      exact Value.fitFloat_exact h hexact
  | null =>
      rw [TypeExpr.fit] at h
      rw [Value.fitNull_inv (TypeExpr.bounded_inv h)]
  | boolean =>
      rw [TypeExpr.fit] at h
      exact Value.fitBoolean_exact (TypeExpr.bounded_inv h) hexact
  | text =>
      rw [TypeExpr.fit] at h
      exact Value.fitText_exact (TypeExpr.bounded_inv h) hexact
  | enumeration type =>
      rw [TypeExpr.fit] at h
      exact Value.fitMember_exact (TypeExpr.bounded_inv h) hexact
  | list =>
      rw [TypeExpr.fit.eq_def] at h
      dsimp only at h
      split at h
      · cases TypeExpr.eq_of_bounded h
        rfl
      · cases TypeExpr.eq_of_bounded h
        cases hexact
      · cases h
  | sequence u =>
      rw [TypeExpr.fit.eq_def] at h
      dsimp only at h
      split at h
      · obtain ⟨⟨fit, ys⟩, hitems, h⟩ := bind_eq_ok.1 h
        cases TypeExpr.eq_of_bounded h
        cases hexact
        rw [fitItems_exact (fun h hexact => fit_exact u hsharp h hexact) hitems]
      · obtain ⟨⟨fit, ys⟩, _, h⟩ := bind_eq_ok.1 h
        cases TypeExpr.eq_of_bounded h
        cases hexact
      · cases h
  | model ref =>
      rw [TypeExpr.fit.eq_def] at h
      dsimp only at h
      split at h
      · split at h
        · cases TypeExpr.eq_of_bounded h
          rfl
        · cases h
      · split at h
        · split at h
          · cases h
            cases hexact
          · obtain ⟨⟨vs, slots⟩, _, h⟩ := bind_eq_ok.1 h
            obtain ⟨value, _, h⟩ := bind_eq_ok.1 h
            cases TypeExpr.eq_of_bounded h
            cases hexact
        · cases h
  | union members barred =>
      rw [TypeExpr.fit] at h
      split at h
      · next hnull =>
        cases h
        exact (Value.isNull_iff.1 (Bool.and_eq_true_iff.1 hnull).2).symm
      · split at h
        · exact fitFirst_exact members hsharp h hexact fun b hb => by cases hb
        · exact fitFirst_exact members hsharp (TypeExpr.bounded_inv h) hexact
            fun b hb => by cases hb
  | foreign name =>
      rw [TypeExpr.fit] at h
      cases h
      rfl
  | mapping key value =>
      rw [TypeExpr.fit] at h
      cases h
      rfl
  | shaped shape =>
      rw [TypeExpr.fit] at h
      cases h
      rfl

theorem fitFirst_exact (ts : List TypeExpr) {marks : List Mark} {best : Option Fitted}
    {failed : List Violation} {v : Value} {r : Fitted} (hsharp : TypeExpr.areSharp ts = true)
    (h : fitFirst F marks best failed ts v = .ok r) (hexact : r.fit = .exact)
    (hbest : ∀ b, best = some b → b.fit ≠ .exact) : r.value = v := by
  cases ts with
  | nil =>
      cases best with
      | none =>
          rw [fitFirst] at h
          cases h
      | some b =>
          rw [fitFirst] at h
          cases h
          exact absurd hexact (hbest r rfl)
  | cons t rest =>
      rw [TypeExpr.areSharp, Bool.and_eq_true] at hsharp
      rcases fitFirst_cons_inv h with ⟨_, h⟩ | ⟨_, ⟨vs, h⟩ | ⟨taken, ht, ⟨hfit, rfl⟩ | ⟨hfit, h⟩⟩⟩
      · exact fitFirst_exact rest hsharp.2 h hexact hbest
      · exact fitFirst_exact rest hsharp.2 h hexact hbest
      · exact fit_exact t hsharp.1 ht hfit
      -- The best so far is never exact: an exact fit ends the search.
      · refine fitFirst_exact rest hsharp.2 h hexact fun b hb => ?_
        cases best with
        | none =>
            cases hb
            exact hfit
        | some c =>
            cases hb
            exact Fitted.better_inexact (hbest c rfl) hfit

end

end EditorProtocol
