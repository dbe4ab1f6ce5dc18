import EditorProtocol.Codec.Decode

/-!
Outcomes of computations that may fail or leave warnings behind. A refusal is a mismatch, which a
union passes over; a decided outcome is a value or a refusal, and no other fault.
-/

namespace EditorProtocol

section Except

variable {ε α β : Type}

@[simp] theorem ok_bind (a : α) (f : α → Except ε β) : (Except.ok a >>= f) = f a := rfl

theorem bind_eq_ok {x : Except ε α} {f : α → Except ε β} {b : β} :
    (x >>= f) = .ok b ↔ ∃ a, x = .ok a ∧ f a = .ok b := by
  cases x with
  | error e =>
      constructor
      · intro h
        cases h
      · rintro ⟨a, h, _⟩
        cases h
  | ok a =>
      constructor
      · intro h
        exact ⟨a, rfl, h⟩
      · rintro ⟨a', h, hf⟩
        cases h
        exact hf

/-- A failure comes from the first computation, or from what is made of its value. -/
theorem bind_error_inv {x : Except ε α} {f : α → Except ε β} {e : ε} (h : (x >>= f) = .error e) :
    x = .error e ∨ ∃ a, x = .ok a ∧ f a = .error e := by
  cases x with
  | error e' =>
      cases h
      exact .inl rfl
  | ok a => exact .inr ⟨a, rfl, h⟩

theorem bind_unit_eq_ok {x : Except ε Unit} {y : Except ε β} {b : β} :
    (x >>= fun _ => y) = .ok b ↔ x = .ok () ∧ y = .ok b := by
  rw [bind_eq_ok]
  exact ⟨fun ⟨_, hx, hy⟩ => ⟨hx, hy⟩, fun ⟨hx, hy⟩ => ⟨(), hx, hy⟩⟩

@[simp] theorem mapError_ok {δ : Type} (f : ε → δ) (a : α) :
    (Except.ok a).mapError f = .ok a := rfl

@[simp] theorem mapError_error {δ : Type} (f : ε → δ) (e : ε) :
    (Except.error e : Except ε α).mapError f = .error (f e) := rfl

theorem mapError_ok_iff {δ : Type} {f : ε → δ} {r : Except ε α} {a : α} :
    r.mapError f = .ok a ↔ r = .ok a := by
  cases r <;> simp

theorem mapError_error_iff {δ : Type} {f : ε → δ} {r : Except ε α} {e : δ} :
    r.mapError f = .error e ↔ ∃ e', r = .error e' ∧ f e' = e := by
  cases r <;> simp

end Except

/-! ### Refusals -/

section Refusal

variable {α β : Type}

/-- A mismatch came out. -/
def Refused (r : Except Fault α) : Prop := ∃ m, r = .error (.mismatch m)

/-- A value or a mismatch came out. -/
def Decided (r : Except Fault α) : Prop := (∃ a, r = .ok a) ∨ Refused r

theorem refused_refuse (s : Shape) (v : Value) (reason : Reason) :
    Refused (refuse s v reason : Except Fault α) := ⟨_, rfl⟩

theorem Refused.decided {r : Except Fault α} (h : Refused r) : Decided r := .inr h

theorem Refused.ne_ok {r : Except Fault α} (h : Refused r) (a : α) : r ≠ .ok a := by
  obtain ⟨m, rfl⟩ := h
  exact nofun

theorem Refused.isOk {r : Except Fault α} (h : Refused r) : r.isOk = false := by
  obtain ⟨m, rfl⟩ := h
  rfl

theorem decided_ok (a : α) : Decided (.ok a : Except Fault α) := .inl ⟨a, rfl⟩

theorem decided_refuse (s : Shape) (v : Value) (reason : Reason) :
    Decided (refuse s v reason : Except Fault α) := .inr (refused_refuse s v reason)

@[simp] theorem underSegment_ok (segment : Segment) (a : α) :
    underSegment segment (.ok a) = .ok a := rfl

theorem underSegment_eq_ok {segment : Segment} {r : Except Fault α} {a : α} :
    underSegment segment r = .ok a ↔ r = .ok a := by
  cases r with
  | error f =>
      constructor <;> intro h <;> cases h
  | ok b => rfl

theorem Refused.underSegment {r : Except Fault α} (h : Refused r) (segment : Segment) :
    Refused (underSegment segment r) := by
  obtain ⟨m, rfl⟩ := h
  exact ⟨m.under [segment], rfl⟩

theorem Decided.underSegment {r : Except Fault α} (h : Decided r) (segment : Segment) :
    Decided (underSegment segment r) := by
  rcases h with ⟨a, rfl⟩ | h
  · exact decided_ok a
  · exact (h.underSegment segment).decided

theorem Refused.bind {r : Except Fault α} (h : Refused r) (f : α → Except Fault β) :
    Refused (r >>= f) := by
  obtain ⟨m, rfl⟩ := h
  exact ⟨m, rfl⟩

/-- A refusal comes from the first computation, or from what is made of its value. -/
theorem refused_bind_inv {r : Except Fault α} {f : α → Except Fault β} (h : Refused (r >>= f)) :
    Refused r ∨ ∃ a, r = .ok a ∧ Refused (f a) := by
  cases r with
  | ok a => exact .inr ⟨a, rfl, h⟩
  | error e =>
      obtain ⟨m, hm⟩ := h
      cases hm
      exact .inl ⟨m, rfl⟩

theorem refused_of_underSegment {segment : Segment} {r : Except Fault α}
    (h : Refused (underSegment segment r)) : Refused r := by
  obtain ⟨m, hm⟩ := h
  cases r with
  | ok a => cases hm
  | error e =>
      cases e with
      | mismatch n => exact ⟨n, rfl⟩
      | _ => cases hm

theorem Decided.bind {r : Except Fault α} {f : α → Except Fault β} (h : Decided r)
    (hf : ∀ a, r = .ok a → Decided (f a)) : Decided (r >>= f) := by
  rcases h with ⟨a, rfl⟩ | h
  · exact hf a rfl
  · exact (h.bind f).decided

end Refusal

/-! ### Traces -/

namespace Traced

variable {ε α β : Type}

@[simp] theorem outcome_pure (a : α) : (pure a : Traced ε α).outcome = .ok a := rfl

@[simp] theorem outcome_of (r : Except ε α) : (Traced.of r).outcome = r := rfl

@[simp] theorem outcome_bind (x : Traced ε α) (f : α → Traced ε β) :
    (x >>= f).outcome = x.outcome >>= fun a => (f a).outcome := by
  show (Traced.bind x f).outcome = _
  unfold Traced.bind
  cases x.outcome <;> rfl

@[simp] theorem outcome_mapError {δ : Type} (f : ε → δ) (x : Traced ε α) :
    (Traced.mapError f x).outcome = x.outcome.mapError f := rfl

@[simp] theorem outcome_under (segment : Segment) (x : Traced Fault α) :
    (x.under segment).outcome = underSegment segment x.outcome := rfl

theorem outcome_attempt_ok {x : Traced Fault α} {a : α} (h : x.outcome = .ok a) :
    x.attempt.outcome = .ok (.ok a) := by
  unfold attempt
  rw [h]

theorem outcome_attempt_refused {x : Traced Fault α} (h : Refused x.outcome) :
    ∃ m, x.attempt.outcome = .ok (.error m) := by
  obtain ⟨m, hm⟩ := h
  refine ⟨m, ?_⟩
  unfold attempt
  rw [hm]

end Traced

end EditorProtocol
