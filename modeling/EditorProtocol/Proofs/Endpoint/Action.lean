import Mathlib.Order.Defs.Unbundled
import EditorProtocol.Endpoint.Receiving

/-!
What actions do to a session, one equation for each of the steps that they are made of. A relation
between sessions that holds over every step holds over the whole action.
-/

namespace EditorProtocol.Action

variable {α β : Type}

/-! ### Steps -/

theorem run_bind (x : Action α) (f : α → Action β) (s : Session) :
    (x >>= f).run s =
      match x.run s with
      | (.ok a, t) => (f a).run t
      | (.error e, t) => (.error e, t) := by
  show (match x.run s with | (r, t) => (ExceptT.bindCont f r).run t) = _
  rcases x.run s with ⟨_ | a, t⟩
  · rfl
  · rfl

@[simp] theorem run_pure (a : α) (s : Session) : (pure a : Action α).run s = (.ok a, s) := rfl

@[simp] theorem run_get_bind (f : Session → Action α) (s : Session) :
    (get >>= f).run s = (f s).run s := rfl

@[simp] theorem run_modify (f : Session → Session) (s : Session) :
    (modify f : Action Unit).run s = (.ok (), f s) := rfl

@[simp] theorem run_modify_bind (f : Session → Session) (g : Unit → Action α) (s : Session) :
    (modify f >>= g).run s = (g ()).run (f s) := rfl

@[simp] theorem run_attempt (x : Action α) (s : Session) :
    (attempt x).run s = (.ok (x.run s).1, (x.run s).2) := rfl

theorem run_ofTransition (r : Except TransitionError α) (s : Session) :
    (ofTransition r).run s = (r.mapError .transition, s) := by
  cases r with
  | ok a => rfl
  | error e => rfl

theorem run_ofTraced (t : Traced Refusal α) (s : Session) :
    (ofTraced t).run s =
      (t.outcome.mapError .refused, s.note (t.warnings.map Warning.entry)) := by
  unfold ofTraced
  rw [run_bind, run_modify]
  cases t.outcome with
  | ok a => rfl
  | error r => rfl

theorem run_transmit_of_failure {s : Session} {f : TransportFailure}
    (h : s.sendFailure = some f) (m : Value) :
    (transmit m).run s = (.error (.transport f), s) := by
  unfold transmit
  rw [run_get_bind]
  split
  · next g hg =>
    cases h.symm.trans hg
    rfl
  · next hnone => cases h.symm.trans hnone

/-- A transport that does not fail takes the message. -/
theorem run_transmit_of_none {s : Session} (h : s.sendFailure = none) (m : Value) :
    (transmit m).run s = (.ok (), { s with outbox := s.outbox ++ [m] }) := by
  unfold transmit
  rw [run_get_bind]
  split
  · next g hg => cases h.symm.trans hg
  · rfl

/-- A message that the transport takes is sent after those before. -/
theorem outbox_transmit {s : Session} {m : Value} (h : ((transmit m).run s).1 = .ok ()) :
    ((transmit m).run s).2.outbox = s.outbox ++ [m] := by
  cases hfailure : s.sendFailure with
  | some f =>
      rw [run_transmit_of_failure hfailure] at h
      cases h
  | none => rw [run_transmit_of_none hfailure]

/-! ### Relations over actions -/

/-- An action that relates what it begins with to what it leaves. -/
def Within (P : Session → Session → Prop) (x : Action α) : Prop := ∀ s, P s (x.run s).2

namespace Within

variable {P : Session → Session → Prop} {x : Action α}

theorem modify {f : Session → Session} (hf : ∀ s, P s (f s)) : Within P (modify f : Action Unit) :=
  hf

theorem attempt (hx : Within P x) : Within P (attempt x) := hx

theorem ofTraced (hnote : ∀ s entries, P s (s.note entries)) (t : Traced Refusal α) :
    Within P (ofTraced t) := by
  intro s
  rw [run_ofTraced]
  exact hnote s _

variable [IsPreorder Session P]

theorem pure (a : α) : Within P (pure a : Action α) := fun s => refl_of P s

theorem throw_bind (e : EndpointError) (f : α → Action β) :
    Within P ((throw e : Action α) >>= f) := fun s => refl_of P s

theorem throw (e : EndpointError) : Within P (throw e : Action α) := fun s => refl_of P s

theorem get : Within P (get : Action Session) := fun s => refl_of P s

theorem bind {f : α → Action β} (hx : Within P x) (hf : ∀ a, Within P (f a)) :
    Within P (x >>= f) := by
  intro s
  have h := hx s
  rw [run_bind]
  rcases hrun : x.run s with ⟨_ | a, t⟩
  · rw [hrun] at h
    exact h
  · rw [hrun] at h
    exact trans_of P h (hf a t)

theorem ofTransition (r : Except TransitionError α) : Within P (ofTransition r) := by
  intro s
  rw [run_ofTransition]
  exact refl_of P s

theorem ofValidation (m : Model) (r : Except Rejection α) : Within P (ofValidation m r) := by
  rcases r with ⟨_ | _⟩ | a
  · exact .throw _
  · exact .throw _
  · exact .pure a

theorem transmit {m : Value} (hsent : ∀ s, P s { s with outbox := s.outbox ++ [m] }) :
    Within P (transmit m) := by
  intro s
  cases h : s.sendFailure with
  | some f =>
      rw [run_transmit_of_failure h]
      exact refl_of P s
  | none =>
      rw [run_transmit_of_none h]
      exact hsent s

end Within

/-! ### Errors of actions -/

/-- An action that fails with errors of some kind only. -/
def FailsWith (P : EndpointError → Prop) (x : Action α) : Prop :=
  ∀ s e, (x.run s).1 = .error e → P e

namespace FailsWith

variable {P : EndpointError → Prop} {x : Action α}

theorem pure (a : α) : FailsWith P (pure a : Action α) := fun s e h => by cases h

theorem modify (f : Session → Session) : FailsWith P (modify f : Action Unit) :=
  fun s e h => by cases h

theorem throw {e : EndpointError} (he : P e) : FailsWith P (throw e : Action α) := by
  intro s e' h
  cases h
  exact he

theorem bind {f : α → Action β} (hx : FailsWith P x) (hf : ∀ a, FailsWith P (f a)) :
    FailsWith P (x >>= f) := by
  intro s e h
  rw [run_bind] at h
  rcases hrun : x.run s with ⟨_ | a, t⟩
  · rw [hrun] at h
    cases h
    exact hx s e (congrArg Prod.fst hrun)
  · rw [hrun] at h
    exact hf a t e h

/-- An action that looks at the result or the error of another one. -/
theorem attempt {f : Except EndpointError α → Action β}
    (hf : ∀ s, FailsWith P (f (x.run s).1)) : FailsWith P (attempt x >>= f) := by
  intro s e h
  rw [run_bind, run_attempt] at h
  exact hf s _ e h

end FailsWith

end EditorProtocol.Action
