import EditorProtocol.Proofs.Catalog.Answers
import EditorProtocol.Proofs.Endpoint.Cancelling

/-!
Requests that are taken back. Once the task of a request has begun, the request gets exactly one
response even if the other side takes it back: the error that it was cancelled, or whatever the
handler makes of it. A task that was to begin yet ends in silence.
-/

namespace EditorProtocol

variable {R : Registry} {r : IncomingRequest} {d : Deed} {ds : List Deed} {n : Nat} {s t : Session}

namespace Session

/-- What a move makes of an endpoint that can answer. -/
theorem CanAnswer.move (hs : s.CanAnswer R) (h : Move s d t)
    (works : ∀ f, d ≠ .transport (some f)) : t.CanAnswer R := by
  have hsetting := h.setting
  cases d with
  | transport failure =>
      cases failure with
      | some f => exact absurd rfl (works f)
      | none => exact ⟨(congrArg Setting.family hsetting).trans hs.family,
          (congrArg Setting.registry hsetting).trans hs.registry,
          congrArg Setting.sendFailure hsetting⟩
  | _ => exact hs.of_setting hsetting

/-- A task whose request was taken back has one answer when it comes to a conclusion. -/
theorem Move.answers_of_takenBack (hR : R ∈ Catalog.registries) (hs : s.CanAnswer R)
    {c : Conclusion} {answers : List Value} (h : Move s (.concluded n c answers) t)
    (holds : s.docket.Holds n r .begun) (taken : r.id ∈ s.docket.takenBack)
    (answerable : ∀ e, c = .raised e → e.IsAnswerable R r.method) :
    ∃ answer, r.IsAnsweredBy R answer ∧ answers = [answer] := by
  cases h with
  | @concluded u found live c answers sent =>
      have hrequest : u.request = r := by
        have herrand := (errand?_of_task? found).symm.trans holds.errand
        exact congrArg Errand.request (Option.some.inj herrand)
      rw [hrequest] at sent
      obtain ⟨answer, hanswer, hout⟩ := c.answersOnce hR hs answerable fun _ => taken
      refine ⟨answer, hanswer, List.append_cancel_left (sent.symm.trans ?_)⟩
      rw [outbox_endTaskWith, hout]

/-- A request that was taken back after its task has begun is answered once. -/
theorem Path.answered (hR : R ∈ Catalog.registries) (path : Path s ds t) (hs : s.CanAnswer R)
    (sound : s.docket.Sound) (holds : s.docket.Holds n r .begun)
    (taken : r.id ∈ s.docket.takenBack) (others : ∀ d ∈ ds, d.reuses r.id = false)
    (works : ∀ f, .transport (some f) ∉ ds)
    (answerable : ∀ e answers, .concluded n (.raised e) answers ∈ ds →
      e.IsAnswerable R r.method)
    (ended : ∀ e, t.docket.errand? n = some e → e.stage = .ended) :
    ∃ answer, r.IsAnsweredBy R answer ∧ t.responsesTo r.id = s.responsesTo r.id ++ [answer] := by
  -- Induction on the path: each move leaves the task in flight and silent, until the one in which
  -- it comes to its conclusion; after that nothing answers to the identity.
  induction path with
  | rest s => cases ended _ holds.errand
  | @move s u t d ds first more ih =>
      have hmore : ∀ d ∈ ds, d.reuses r.id = false := fun d hd => others d (.tail _ hd)
      cases first.docket.passes sound holds nofun (others d (.head _)) with
      | holds holds' _ begun silent takenBack =>
          rw [begun rfl] at holds'
          obtain ⟨answer, hanswer, hsent⟩ := ih
            (hs.move first fun f hd => works f (hd ▸ .head _)) (first.docket.sound sound) holds'
            (takenBack taken) hmore (fun f hf => works f (.tail _ hf))
            (fun e answers hmem => answerable e answers (.tail _ hmem)) ended
          rw [first.responsesTo, silent, List.append_nil] at hsent
          exact ⟨answer, hanswer, hsent⟩
      | @concluded c answers eq isOver =>
          cases eq
          obtain ⟨answer, hanswer, rfl⟩ := first.answers_of_takenBack hR hs holds taken
            fun e he => answerable e answers (he ▸ .head _)
          refine ⟨answer, hanswer, ?_⟩
          rw [(more.isOver isOver hmore).2, first.responsesTo, Deed.answersTo, Deed.answers,
            List.filter_singleton, hanswer.answers.respondsTo, beq_self_eq_true]
          rfl
      | quit created _ => cases created

end Session

namespace Catalog

open Session

/-- A message with an identity and a method is accepted as the request that it says. -/
theorem requests_bare (id : RequestId) (method : String) :
    (Value.object [("jsonrpc", .text "2.0"), ("id", id.value), ("method", .text method)]).Requests
      family ⟨id, method, .null⟩ := by
  have hfilled : requestMessage.Filled family fun d =>
      Value.lookup [("jsonrpc", .text "2.0"), ("id", id.value), ("method", .text method)]
        d.name := by
    refine Model.filled_of_fields (List.forall_mem_cons.2 ⟨.inl ⟨_, rfl, ?_⟩,
      List.forall_mem_cons.2 ⟨.inl ⟨_, rfl, requestId_conforms id⟩,
        List.forall_mem_cons.2 ⟨.inl ⟨_, rfl, .text rfl method⟩,
          List.forall_mem_cons.2 ⟨.inr ⟨rfl, rfl⟩, List.forall_mem_nil _⟩⟩⟩⟩)
    exact .code rfl rfl (.text "2.0")
  have hfound : family.find? requestMessage.ref = some requestMessage := rfl
  have hregular := (family_regular.model hfound).1
  have hfit := Model.fitFields_entries family_regular hregular hfilled
  refine ⟨rfl, rfl, _, Model.make_of_fitFields hregular hfit rfl, ?_⟩
  cases id <;> rfl

end Catalog

end EditorProtocol
