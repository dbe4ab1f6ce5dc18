import EditorProtocol.Proofs.Endpoint.Action
import EditorProtocol.Proofs.Endpoint.Move

/-!
What a task does last. However it ends, it sends one answer at most, and an answer carries the
identity of the request with either a result or an error.
-/

namespace EditorProtocol

variable {α : Type} {r : IncomingRequest}

/-- A response to a request: it has the identity, and a result or an error, but not both. -/
structure Value.Answers (answer : Value) (id : RequestId) : Prop where
  isResponse : answer.isResponse = true
  identity : answer.at? "id" = some id.value
  outcome : (answer.at? "result").isSome = !(answer.at? "error").isSome

theorem Reply.answers_message (reply : Reply) (id : RequestId) :
    (reply.message id.value).Answers id := by
  unfold Reply.message
  cases reply.failed with
  | false => exact ⟨rfl, rfl, rfl⟩
  | true => exact ⟨rfl, rfl, rfl⟩

theorem Action.answers_plainErrorResponse (id : RequestId) (e : LspError) :
    (plainErrorResponse id e).Answers id :=
  ⟨rfl, rfl, rfl⟩

/-- How far the loop has come, and what it has yet to take. -/
def Session.intake (s : Session) : Loop × List Incoming := (s.loop, s.inbox)

/-- What serving a request leaves as it was: all but the log, what was sent, and the note that the
other side took that request back. -/
structure Session.Serves (r : IncomingRequest) (s t : Session) : Prop where
  setting : t.setting = s.setting
  ledger : t.ledger = s.ledger
  tasks : t.tasks = s.tasks
  ready : t.ready = s.ready
  taskOf : t.taskOf = s.taskOf
  intake : t.intake = s.intake
  takenBack : ∀ id ≠ r.id, id ∈ s.cancelledIncoming → id ∈ t.cancelledIncoming

instance : IsPreorder Session (Session.Serves r) where
  refl _ := ⟨rfl, rfl, rfl, rfl, rfl, rfl, fun _ _ h => h⟩
  trans _ _ _ h k :=
    ⟨k.setting.trans h.setting, k.ledger.trans h.ledger, k.tasks.trans h.tasks,
      k.ready.trans h.ready, k.taskOf.trans h.taskOf, k.intake.trans h.intake,
      fun id hid hmem => k.takenBack id hid (h.takenBack id hid hmem)⟩

/-- Two sessions that have sent the same. -/
def Session.SameOutbox (s t : Session) : Prop := t.outbox = s.outbox

instance : IsPreorder Session Session.SameOutbox where
  refl _ := rfl
  trans _ _ _ h k := Eq.trans k h

namespace Action

/-- An action that serves a request and sends at most one answer to it, as the last thing. -/
structure Concludes (r : IncomingRequest) (x : Action Unit) : Prop where
  serves : Within (Session.Serves r) x
  sends : ∀ s, (x.run s).2.outbox = s.outbox ∨
    ∃ answer : Value, answer.Answers r.id ∧ (x.run s).2.outbox = s.outbox ++ [answer]

namespace Concludes

/-- Something else is done before. -/
theorem bind {x : Action α} {f : α → Action Unit} (hserves : Within (Session.Serves r) x)
    (hsent : Within Session.SameOutbox x) (hf : ∀ a, Concludes r (f a)) :
    Concludes r (x >>= f) := by
  refine ⟨.bind hserves fun a => (hf a).serves, fun s => ?_⟩
  have hs := hsent s
  rw [run_bind]
  rcases hrun : x.run s with ⟨_ | a, t⟩
  · rw [hrun] at hs
    exact .inl hs
  · rw [hrun] at hs
    have hx : t.outbox = s.outbox := hs
    rw [← hx]
    exact (hf a).sends t

theorem get {f : Session → Action Unit} (hf : ∀ s, Concludes r (f s)) :
    Concludes r (MonadState.get >>= f) :=
  bind .get .get hf

theorem report (severity : Severity) (message : String) {x : Action Unit} (hx : Concludes r x) :
    Concludes r (do modify (·.report severity message); x) :=
  bind (.modify fun _ => ⟨rfl, rfl, rfl, rfl, rfl, rfl, fun _ _ h => h⟩) (.modify fun _ => rfl)
    fun _ => hx

theorem transmit {answer : Value} (h : answer.Answers r.id) : Concludes r (transmit answer) := by
  refine ⟨.transmit fun _ => ⟨rfl, rfl, rfl, rfl, rfl, rfl, fun _ _ h => h⟩, fun s => ?_⟩
  cases hfailure : s.sendFailure with
  | some f =>
      rw [run_transmit_of_failure hfailure]
      exact .inl rfl
  | none =>
      rw [run_transmit_of_none hfailure]
      exact .inr ⟨answer, h, rfl⟩

theorem serveRecord (r : IncomingRequest) (error : Value) : Concludes r (serveRecord r error) := by
  have hnote : ∀ s entries, Session.Serves r s (s.note entries) :=
    fun s entries => ⟨rfl, rfl, rfl, rfl, rfl, rfl, fun _ _ h => h⟩
  refine .get fun s => .bind (.ofTraced hnote _) (.ofTraced (fun _ _ => rfl) _) fun reply => ?_
  exact .report _ _ (.transmit (reply.answers_message r.id))

theorem serveParts (r : IncomingRequest) (code message data : Value) :
    Concludes r (serveParts r code message data) :=
  .get fun _ => .bind (.ofValidation _ _) (.ofValidation _ _) fun error => .serveRecord r error

theorem serveError (r : IncomingRequest) (e : LspError) : Concludes r (serveError r e) := by
  refine .get fun s => ?_
  split
  · exact .serveParts r _ _ _
  · exact .report _ _ (.transmit (answers_plainErrorResponse r.id e))

theorem serveFailure (r : IncomingRequest) (e : EndpointError) :
    Concludes r (serveFailure r e) := by
  unfold Action.serveFailure
  split
  · exact .serveError r _
  · exact .serveParts r _ _ _
  · exact .report _ _ (.serveError r _)

theorem serveResult (r : IncomingRequest) (v : Value) : Concludes r (serveResult r v) := by
  refine .get fun s => ?_
  split
  · next reply _ => exact .transmit (reply.answers_message r.id)
  · exact .serveFailure r _

theorem serveInterruption (r : IncomingRequest) : Concludes r (serveInterruption r) := by
  have herror := serveError r (.cancelled r.method)
  refine ⟨fun s => ?_, fun s => ?_⟩
  · unfold Action.serveInterruption
    rw [run_get_bind]
    split
    · refine trans_of (Session.Serves r) ?_ (herror.serves _)
      refine ⟨rfl, rfl, rfl, rfl, rfl, rfl, fun id hid hmem => ?_⟩
      exact List.mem_filter.2 ⟨hmem, bne_iff_ne.2 hid⟩
    · exact refl_of (Session.Serves r) s
  · unfold Action.serveInterruption
    rw [run_get_bind]
    split
    · exact herror.sends { s with cancelledIncoming := s.cancelledIncoming.filter (· != r.id) }
    · exact .inl rfl

end Concludes

end Action

theorem Conclusion.concludes (c : Conclusion) (r : IncomingRequest) :
    (c.action r).Concludes r := by
  cases c with
  | returned v => exact .serveResult r v
  | raised e => exact .serveFailure r e
  | gaveUp => exact .serveInterruption r
  | refused code message => exact .serveError r _

namespace Session

/-- A task that ends with a last action is the task ended after that action. -/
theorem exists_endTaskWith (s : Session) (t : Task) (x : Action Unit) :
    ∃ failure, s.endTaskWith t x = (x.run s).2.endTask t failure := by
  unfold endTaskWith
  split
  · next hrun => exact ⟨none, by rw [hrun]⟩
  · next e _ hrun => exact ⟨some e, by rw [hrun]⟩

theorem exists_answers (s : Session) (t : Task) (c : Conclusion) :
    ∃ answers, (s.endTaskWith t (c.action t.request)).outbox = s.outbox ++ answers ∧
      (answers = [] ∨ ∃ answer : Value, answer.Answers t.request.id ∧ answers = [answer]) := by
  obtain ⟨failure, hend⟩ := s.exists_endTaskWith t (c.action t.request)
  rw [hend]
  rcases (c.concludes t.request).sends s with hnone | ⟨answer, hanswer, hsent⟩
  · exact ⟨[], by rw [List.append_nil]; exact hnone, .inl rfl⟩
  · exact ⟨[answer], hsent, .inr ⟨answer, hanswer, rfl⟩⟩

end Session

end EditorProtocol
