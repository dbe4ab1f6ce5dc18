import EditorProtocol.Proofs.Codec.Outcome
import EditorProtocol.Proofs.Shape.Sound

/-!
Taking values of types without parts. A value is taken or a rule is broken; a fault comes up only
where bounds or orders are asked of values that have none. What is taken exactly is the value that
was given.
-/

namespace EditorProtocol

/-! ### Answers -/

/-- A value was taken, or rules were broken. -/
inductive Answered {α : Type} : Except Rejection α → Prop
  | ok (a : α) : Answered (.ok a)
  | refused (vs : List Violation) : Answered (.error (.violations vs))

namespace Answered

variable {α β : Type}

theorem bind {r : Except Rejection α} {f : α → Except Rejection β} (h : Answered r)
    (hf : ∀ a, r = .ok a → Answered (f a)) : Answered (r >>= f) := by
  cases h with
  | ok a => exact hf a rfl
  | refused vs => exact .refused vs

theorem under {r : Except Rejection α} (h : Answered r) (segment : Segment) :
    Answered (r.mapError (.under segment)) := by
  cases h with
  | ok a => exact .ok a
  | refused vs => exact .refused _

/-- Whatever was answered can be looked at. -/
theorem collect {r : Except Rejection α} (h : Answered r) : ∃ x, Rejection.collect r = .ok x := by
  cases h with
  | ok a => exact ⟨_, rfl⟩
  | refused vs => exact ⟨_, rfl⟩

theorem ofReading (v : Value) (read : Except Breach α) (make : α → Value) :
    Answered (Fitted.ofReading v read make) := by
  cases read with
  | ok a => exact .ok _
  | error b => exact .refused _

end Answered

/-! ### Bounds -/

namespace Mark

theorem bound?_free {m : Mark} (hm : m.isFree = true) (kind : BoundKind) :
    kind.bound? m = none := by
  cases m with
  | bounds => cases hm
  | _ => cases kind <;> rfl

/-- Marks that bound nothing are kept by every value. -/
theorem check_free {marks : List Mark} (hfree : marks.all isFree = true) (v : Value) :
    check marks v = .ok () := by
  unfold check
  induction marks with
  | nil => rfl
  | cons m rest ih =>
      rw [List.all_cons, Bool.and_eq_true] at hfree
      simp only [List.forM, bound?_free hfree.1]
      exact ih hfree.2

/-- An integer within the bounds of a shape is within every bound that the shape keeps. -/
theorem admits_of_isKept {marks : List Mark} {kind : BoundKind} {k n : Int}
    (hkept : kind.isKept marks k = true) (hlow : ∀ j, minimum marks = some j → j ≤ n)
    (hhigh : ∀ j, maximum marks = some j → n ≤ j) :
    kind.admits (some (Ord.compare n k)) = true := by
  cases kind with
  | above =>
      obtain ⟨j, hj, hlt⟩ := (Option.any_eq_true _ _).1 hkept
      have hgt : k < n := Int.lt_of_lt_of_le (of_decide_eq_true hlt) (hlow j hj)
      rw [BoundKind.admits, Int.compare_eq_gt.2 hgt]
      rfl
  | atLeast =>
      obtain ⟨j, hj, hle⟩ := (Option.any_eq_true _ _).1 hkept
      rcases Int.lt_or_eq_of_le (Int.le_trans (of_decide_eq_true hle) (hlow j hj)) with hgt | rfl
      · rw [BoundKind.admits, Int.compare_eq_gt.2 hgt]
        rfl
      · rw [BoundKind.admits, Int.compare_eq_eq.2 rfl]
        rfl
  | below =>
      obtain ⟨j, hj, hlt⟩ := (Option.any_eq_true _ _).1 hkept
      have hless : n < k := Int.lt_of_le_of_lt (hhigh j hj) (of_decide_eq_true hlt)
      rw [BoundKind.admits, Int.compare_eq_lt.2 hless]
      rfl
  | atMost =>
      obtain ⟨j, hj, hle⟩ := (Option.any_eq_true _ _).1 hkept
      rcases Int.lt_or_eq_of_le (Int.le_trans (hhigh j hj) (of_decide_eq_true hle)) with hless | rfl
      · rw [BoundKind.admits, Int.compare_eq_lt.2 hless]
        rfl
      · rw [BoundKind.admits, Int.compare_eq_eq.2 rfl]
        rfl

/-- An integer within the bounds of a shape breaks no bound of marks that the shape keeps. -/
theorem breach?_within {marks : List Mark} {n : Int} (hkept : areKept marks = true)
    (hlow : ∀ k, minimum marks = some k → k ≤ n) (hhigh : ∀ k, maximum marks = some k → n ≤ k) :
    breach? marks (fun b => some (Ord.compare n b)) = none := by
  unfold breach?
  rw [List.findSome?_eq_none_iff]
  intro kind _
  split
  · next k hlast =>
    have hkind := List.all_eq_true.1 hkept kind (by cases kind <;> simp)
    rw [hlast] at hkind
    exact if_pos (admits_of_isKept hkind hlow hhigh)
  · rfl

end Mark

/-- An integer within the bounds of a shape is taken for itself. -/
theorem Value.fitInteger_within {marks : List Mark} {n : Int}
    (hkept : Mark.areKept marks = true) (hlow : ∀ k, Mark.minimum marks = some k → k ≤ n)
    (hhigh : ∀ k, Mark.maximum marks = some k → n ≤ k) :
    (Value.int n).fitInteger marks = .ok ⟨.int n, .exact⟩ := by
  unfold fitInteger
  simp only [Mark.breach?_within hkept hlow hhigh]

namespace TypeExpr

variable {marks : List Mark} {taken r : Fitted}

theorem bounded_free (hfree : marks.all Mark.isFree = true) (taken : Fitted) :
    fit.bounded marks taken = .ok taken := by
  unfold fit.bounded
  rw [Mark.check_free hfree]
  rfl

theorem eq_of_bounded (h : fit.bounded marks taken = .ok r) : r = taken := by
  unfold fit.bounded at h
  obtain ⟨_, _, h⟩ := bind_eq_ok.1 h
  exact (Except.ok.inj h).symm

/-- What is taken through bounds was taken before. -/
theorem bounded_inv {x : Except Rejection Fitted}
    (h : (do fit.bounded marks (← x)) = .ok r) : x = .ok r := by
  obtain ⟨taken, hx, h⟩ := bind_eq_ok.1 h
  rw [hx, eq_of_bounded h]

theorem bounded_ok (hfree : marks.all Mark.isFree = true) {x : Except Rejection Fitted}
    (h : x = .ok r) : (do fit.bounded marks (← x)) = .ok r := by
  rw [h]
  exact bounded_free hfree r

theorem bounded_answered (hfree : marks.all Mark.isFree = true) {x : Except Rejection Fitted}
    (h : Answered x) : Answered (do fit.bounded marks (← x)) := by
  refine h.bind fun taken _ => ?_
  rw [bounded_free hfree]
  exact .ok taken

end TypeExpr

/-! ### Scalars -/

namespace Value

variable {v : Value} {r : Fitted}

theorem fitBoolean_answered (v : Value) : Answered v.fitBoolean := by
  unfold fitBoolean
  split
  · exact .ok _
  · exact .ofReading _ _ _

/-- An integer within the bounds of marks is taken, any other one refused. -/
theorem marked_answered (marks : List Mark) (v : Value) (n : Int) (fit : Fit) :
    Answered (match Mark.breach? marks fun b => some (Ord.compare n b) with
      | some b => Rejection.broken v b
      | none => .ok (⟨.int n, fit⟩ : Fitted)) := by
  split
  · exact .refused _
  · exact .ok _

theorem fitInteger_answered (marks : List Mark) (v : Value) : Answered (v.fitInteger marks) := by
  unfold fitInteger
  split
  · exact marked_answered _ _ _ _
  · exact marked_answered _ _ _ _
  · split
    · exact marked_answered _ _ _ _
    · exact .refused _

theorem fitNull_answered (v : Value) : Answered v.fitNull := by
  unfold fitNull
  split
  · exact .ok _
  · exact .refused _

theorem fitFloat_answered (marks : List Mark) (v : Value) : Answered (v.fitFloat marks) := by
  unfold fitFloat
  split
  · exact .refused _
  · split
    · exact .refused _
    · split
      · exact .ok _
      · exact .ok _
      · exact .ok _

theorem fitText_answered (v : Value) : Answered v.fitText := by
  unfold fitText
  split
  · exact .ok _
  · exact .ok _
  · exact .ok _
  · exact .ofReading _ _ _

/-- A member that was found is taken, and without one the value is refused. -/
theorem found_answered (v : Value) (m? : Option EnumMember) (b : Breach) :
    Answered (match m? with
      | some m => .ok (⟨.member m, .loose⟩ : Fitted)
      | none => Rejection.broken v b) := by
  cases m? with
  | some m => exact .ok _
  | none => exact .refused _

theorem fitMember_answered (type : EnumType) (v : Value) : Answered (v.fitMember type) := by
  have hbyCode : ∀ w, Answered (fitMember.byCode w type.base
      (.notMember (type.members.map (·.code.render))) fun code =>
        match type.members.find? fun m => (ofScalar m.code).same code with
        | some m => .ok (⟨.member m, .loose⟩ : Fitted)
        | none => Rejection.broken v (.notMember (type.members.map (·.code.render)))) := by
    intro w
    unfold fitMember.byCode
    split
    · exact found_answered _ _ _
    · split
      · exact found_answered _ _ _
      · exact .refused _
    · split
      · split
        · exact .refused _
        · exact found_answered _ _ _
      · split
        · exact found_answered _ _ _
        · exact .refused _
  unfold fitMember
  split
  · split
    · exact .ok _
    · exact hbyCode _
  · exact hbyCode _

theorem fitCode_answered (codes : List Code) (v : Value) : Answered (v.fitCode codes) := by
  unfold fitCode
  simp only
  split
  · exact .ok _
  · exact .refused _

/-- An integer type never breaks rules in silence. -/
theorem fitInteger_loud (marks : List Mark) (v : Value) :
    v.fitInteger marks ≠ .error (.violations []) := by
  have hbounded : ∀ n fit, (match Mark.breach? marks fun b => some (Ord.compare n b) with
      | some b => Rejection.broken v b
      | none => .ok (⟨.int n, fit⟩ : Fitted)) ≠ .error (.violations []) := by
    intro n fit h
    split at h <;> cases h
  intro h
  unfold fitInteger at h
  split at h
  · exact hbounded _ _ h
  · exact hbounded _ _ h
  · split at h
    · exact hbounded _ _ h
    · cases h

/-! ### Exact scalars -/

theorem ofReading_inv {α : Type} {read : Except Breach α} {make : α → Value}
    (h : Fitted.ofReading v read make = .ok r) : r.fit = .loose := by
  cases read with
  | error b => cases h
  | ok a =>
      cases h
      rfl

theorem fitNull_inv (h : v.fitNull = .ok r) : r = ⟨v, .exact⟩ := by
  unfold fitNull at h
  split at h
  · exact (Except.ok.inj h).symm
  · cases h

theorem fitBoolean_exact (h : v.fitBoolean = .ok r) (hexact : r.fit = .exact) : r.value = v := by
  unfold fitBoolean at h
  split at h
  · cases h
    rfl
  · rw [ofReading_inv h] at hexact
    cases hexact

theorem fitFloat_exact {marks : List Mark} (h : v.fitFloat marks = .ok r)
    (hexact : r.fit = .exact) : r.value = v := by
  unfold fitFloat at h
  split at h
  · cases h
  · next x hx =>
    split at h
    · cases h
    · split at h
      · cases h
        cases hx
        rfl
      · cases h
        cases hexact
      · cases h
        cases hexact

theorem fitText_exact (h : v.fitText = .ok r) (hexact : r.fit = .exact) : r.value = v := by
  unfold fitText at h
  split at h
  · cases h
    rfl
  · cases h
    cases hexact
  · cases h
    cases hexact
  · rw [ofReading_inv h] at hexact
    cases hexact

theorem fitMember_exact {type : EnumType} (h : v.fitMember type = .ok r)
    (hexact : r.fit = .exact) : r.value = v := by
  have hmember : ∀ {m? : Option EnumMember} {b : Breach}, (match m? with
      | some m => Except.ok (⟨.member m, .loose⟩ : Fitted)
      | none => Rejection.broken v b) = .ok r → False := by
    intro m? b h
    cases m? with
    | some m =>
        cases h
        cases hexact
    | none => cases h
  have hbyCode : ∀ {w}, fitMember.byCode w type.base
      (.notMember (type.members.map (·.code.render))) (fun code =>
        match type.members.find? fun m => (ofScalar m.code).same code with
        | some m => .ok (⟨.member m, .loose⟩ : Fitted)
        | none => Rejection.broken v (.notMember (type.members.map (·.code.render)))) = .ok r →
      False := by
    intro w h
    unfold fitMember.byCode at h
    split at h
    · exact hmember h
    · split at h
      · exact hmember h
      · cases h
    · split at h
      · split at h
        · cases h
        · exact hmember h
      · split at h
        · exact hmember h
        · cases h
  unfold fitMember at h
  split at h
  · split at h
    · cases h
      rfl
    · exact (hbyCode h).elim
  · exact (hbyCode h).elim

/-- What is taken for an integer is one that breaks no bound, and what is an integer is taken only
for the one that it is. -/
theorem fitInteger_inv {marks : List Mark} (h : v.fitInteger marks = .ok r) :
    ∃ n, r.value = .int n ∧ Mark.breach? marks (fun b => some (Ord.compare n b)) = none ∧
      (r.fit = .exact → v = .int n) ∧ ∀ k, v.integer? = some k → n = k := by
  have hbounded : ∀ n fit, (match Mark.breach? marks fun b => some (Ord.compare n b) with
      | some b => Rejection.broken v b
      | none => .ok (⟨.int n, fit⟩ : Fitted)) = .ok r →
      Mark.breach? marks (fun b => some (Ord.compare n b)) = none ∧ r = ⟨.int n, fit⟩ := by
    intro n fit h
    split at h
    · cases h
    · next hnone => exact ⟨hnone, (Except.ok.inj h).symm⟩
  unfold fitInteger at h
  split at h
  · next n =>
    obtain ⟨hnone, rfl⟩ := hbounded n .exact h
    exact ⟨n, rfl, hnone, fun _ => rfl, fun k hk => Option.some.inj hk⟩
  · next n _ hinteger =>
    obtain ⟨hnone, rfl⟩ := hbounded n .close h
    refine ⟨n, rfl, hnone, fun hexact => (by cases hexact), fun k hk => ?_⟩
    exact Option.some.inj (hinteger.symm.trans hk)
  · next _ hnot =>
    split at h
    · next n _ =>
      obtain ⟨hnone, rfl⟩ := hbounded n .loose h
      refine ⟨n, rfl, hnone, fun hexact => (by cases hexact), fun k hk => ?_⟩
      cases hnot.symm.trans hk
    · cases h

end Value

end EditorProtocol
