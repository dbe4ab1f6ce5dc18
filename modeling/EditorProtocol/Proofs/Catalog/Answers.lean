import EditorProtocol.Proofs.Catalog.Errors
import EditorProtocol.Proofs.Endpoint.Course

/-!
How requests are answered over the catalogs. A handler that returns or fails makes its task send
one response, which the other side accepts, whatever the handler has come up with; only an error
with data in reply to the first request, which has an error of its own, is lost on the way.
-/

namespace EditorProtocol

variable {R : Registry} {r : IncomingRequest} {s : Session} {m : Method} {replies : Replies}

/-- An answer to a request: it responds to the identity, and if it is JSON, as all that a transport
can carry is, the other side accepts it as a reply to the method. -/
structure IncomingRequest.IsAnsweredBy (r : IncomingRequest) (R : Registry) (answer : Value) :
    Prop where
  answers : answer.Answers r.id
  accepted : ∀ m replies, R.getRequest r.method = .ok (m, replies) → answer.IsJson →
    ∃ a, (R.acceptResponse Catalog.family r.method answer).outcome = .ok a

/-- An endpoint over a registry of the catalog, whose transport accepts messages. -/
structure Session.CanAnswer (R : Registry) (s : Session) : Prop where
  family : s.family = Catalog.family
  registry : s.registry = R
  accepts : s.sendFailure = none

/-- An error with data is for requests that have the general error. -/
def Value.IsDataFor (R : Registry) (method : String) (data : Value) : Prop :=
  data.IsJson ∧ ∀ m replies, R.getRequest method = .ok (m, replies) →
    replies.error = Catalog.responseError.shape ∨ data = .null

theorem Value.isDataFor_null (R : Registry) (method : String) : Value.null.IsDataFor R method :=
  ⟨.null, fun _ _ _ => .inr rfl⟩

/-- An error that a handler ends with can be answered, unless it is an error of the contract whose
code is no integer, whose message is no text or whose data is for other requests. -/
def EndpointError.IsAnswerable (R : Registry) (method : String) : EndpointError → Prop
  | .replied e => e.data.IsDataFor R method
  | .raised code message data =>
    (∃ m replies, R.getRequest method = .ok (m, replies)) ∧
      code.integer?.isSome = true ∧ message.text?.isSome = true ∧ data.IsDataFor R method
  | _ => True

theorem Reply.isJson_payload {reply : Reply} {id : Value} (h : (reply.message id).IsJson) :
    reply.payload.IsJson := by
  cases h with
  | object values => exact values _ (.tail _ (.tail _ (.head _)))

namespace Action

/-- An action answers a request with one message, after which nothing else is sent. -/
def AnswersOnce (R : Registry) (r : IncomingRequest) (s : Session) (x : Action Unit) : Prop :=
  ∃ answer, r.IsAnsweredBy R answer ∧ (x.run s).2.outbox = s.outbox ++ [answer]

theorem answersOnce_transmit {answer : Value} (hs : s.CanAnswer R) (h : r.IsAnsweredBy R answer) :
    AnswersOnce R r s (transmit answer) := by
  refine ⟨answer, h, ?_⟩
  rw [run_transmit_of_none hs.accepts]

theorem answersOnce_serveRecord (hR : R ∈ Catalog.registries) (hs : s.CanAnswer R)
    (hm : R.getRequest r.method = .ok (m, replies)) (code : Int) (text : String) {data : Value}
    (hdata : data.IsDataFor R r.method) :
    AnswersOnce R r s (serveRecord r
      (.record Catalog.responseError.ref (Catalog.errorSlots code text data))) := by
  obtain ⟨reply, hreply, haccepted⟩ :=
    Catalog.accepts_error hR hm code text hdata.1 (hdata.2 m replies hm)
  unfold serveRecord AnswersOnce
  rw [run_get_bind, hs.family, hs.registry, hreply, run_bind, run_ofTraced]
  exact answersOnce_transmit (s := Session.report _ _ _) ⟨hs.family, hs.registry, hs.accepts⟩
    ⟨reply.answers_message r.id, fun _ _ _ _ => haccepted r.id.value⟩

theorem answersOnce_serveParts (hR : R ∈ Catalog.registries) (hs : s.CanAnswer R)
    (hm : R.getRequest r.method = .ok (m, replies)) {code message data : Value}
    (hcode : code.integer?.isSome = true) (htext : message.text?.isSome = true)
    (hdata : data.IsDataFor R r.method) : AnswersOnce R r s (serveParts r code message data) := by
  obtain ⟨n, hn⟩ := Option.isSome_iff_exists.1 hcode
  obtain ⟨text, ht⟩ := Option.isSome_iff_exists.1 htext
  have hmake := Catalog.make_error hn ht hdata.1
  unfold serveParts AnswersOnce
  rw [run_get_bind, hs.family, hmake]
  exact answersOnce_serveRecord hR hs hm n text hdata

/-- Where the request has an error of its own, an error with data is not sent. -/
theorem outbox_serveParts_of_own (hs : s.CanAnswer R)
    (hm : R.getRequest r.method = .ok (m, replies))
    (hown : replies.error = Catalog.initializeResponseError.shape) {code message data : Value}
    (hcode : code.integer?.isSome = true) (htext : message.text?.isSome = true)
    (hdata : data.IsJson) (hnull : data.isNull = false) :
    ((serveParts r code message data).run s).2.outbox = s.outbox := by
  obtain ⟨n, hn⟩ := Option.isSome_iff_exists.1 hcode
  obtain ⟨text, ht⟩ := Option.isSome_iff_exists.1 htext
  have hmake := Catalog.make_error hn ht hdata
  obtain ⟨e, he⟩ := Catalog.no_reply_with_data hm hown n text hdata hnull
  unfold serveParts
  rw [run_get_bind, hs.family, hmake]
  show ((serveRecord r _).run s).2.outbox = s.outbox
  unfold serveRecord
  rw [run_get_bind, hs.family, hs.registry, he, run_bind, run_ofTraced]
  rfl

theorem answersOnce_serveError (hR : R ∈ Catalog.registries) (hs : s.CanAnswer R) {e : LspError}
    (hdata : e.data.IsDataFor R r.method) : AnswersOnce R r s (serveError r e) := by
  unfold serveError AnswersOnce
  rw [run_get_bind, hs.registry]
  split
  · next hrequest =>
    obtain ⟨m, hm, hreplies⟩ := (Option.any_eq_true ..).mp hrequest
    obtain ⟨replies, hreplies⟩ := Option.isSome_iff_exists.1 hreplies
    exact answersOnce_serveParts hR hs (Registry.getRequest_ok_iff.2 ⟨hm, hreplies⟩) rfl rfl hdata
  · next hrequest =>
    -- The other side has no request of the method, so there is nothing that it would accept.
    refine answersOnce_transmit (s := Session.report _ _ _)
      ⟨hs.family, hs.registry, hs.accepts⟩
      ⟨answers_plainErrorResponse r.id e, fun m replies hm => ?_⟩
    obtain ⟨hfound, hreplies⟩ := Registry.getRequest_ok_iff.1 hm
    refine absurd ?_ hrequest
    rw [hfound, Option.any_some, Method.isRequest, hreplies]
    rfl

theorem answersOnce_serveFailure (hR : R ∈ Catalog.registries) (hs : s.CanAnswer R)
    {e : EndpointError} (he : e.IsAnswerable R r.method) :
    AnswersOnce R r s (serveFailure r e) := by
  have hother : ∀ s : Session, s.CanAnswer R → ∀ message : String,
      AnswersOnce R r s (serveError r ⟨LspError.internalError, message, .null⟩) :=
    fun s hs message => answersOnce_serveError hR hs (Value.isDataFor_null R r.method)
  unfold serveFailure
  split
  · exact answersOnce_serveError hR hs he
  · obtain ⟨⟨m, replies, hm⟩, hcode, htext, hdata⟩ := he
    exact answersOnce_serveParts hR hs hm hcode htext hdata
  · unfold AnswersOnce
    rw [run_modify_bind]
    exact hother (s.report _ _) ⟨hs.family, hs.registry, hs.accepts⟩ _

theorem answersOnce_serveResult (hR : R ∈ Catalog.registries) (hs : s.CanAnswer R) (v : Value) :
    AnswersOnce R r s (serveResult r v) := by
  unfold serveResult AnswersOnce
  rw [run_get_bind, hs.family, hs.registry]
  split
  · next reply hreply =>
    exact answersOnce_transmit hs ⟨reply.answers_message r.id, fun _ _ _ hjson =>
      Catalog.accepts_result hR hreply (Reply.isJson_payload hjson) r.id.value⟩
  · exact answersOnce_serveFailure hR hs trivial

theorem answersOnce_serveInterruption (hR : R ∈ Catalog.registries) (hs : s.CanAnswer R)
    (htaken : r.id ∈ s.cancelledIncoming) : AnswersOnce R r s (serveInterruption r) := by
  unfold serveInterruption AnswersOnce
  rw [run_get_bind, if_pos (List.contains_iff_mem.2 htaken)]
  exact answersOnce_serveError (e := .cancelled r.method)
    (s := { s with cancelledIncoming := s.cancelledIncoming.filter (· != r.id) })
    hR ⟨hs.family, hs.registry, hs.accepts⟩ (Value.isDataFor_null R r.method)

end Action

/-- A task answers with whatever it ends, if an error that its handler failed with can be answered,
and if its request was taken back where it gave up. -/
theorem Conclusion.answersOnce (hR : R ∈ Catalog.registries) (hs : s.CanAnswer R) (c : Conclusion)
    (hraised : ∀ e, c = .raised e → e.IsAnswerable R r.method)
    (htaken : c = .gaveUp → r.id ∈ s.cancelledIncoming) : (c.action r).AnswersOnce R r s := by
  cases c with
  | returned v => exact Action.answersOnce_serveResult hR hs v
  | raised e => exact Action.answersOnce_serveFailure hR hs (hraised e rfl)
  | gaveUp => exact Action.answersOnce_serveInterruption hR hs (htaken rfl)
  | refused code message =>
      exact Action.answersOnce_serveError hR hs (Value.isDataFor_null R r.method)

/-! ### Handlers -/

namespace Session

variable {t : Task} {h : Handler} {b : Behaviour}

theorem CanAnswer.of_setting (hs : s.CanAnswer R) {s' : Session} (h : s'.setting = s.setting) :
    s'.CanAnswer R :=
  ⟨(congrArg Setting.family h).trans hs.family, (congrArg Setting.registry h).trans hs.registry,
    (congrArg Setting.sendFailure h).trans hs.accepts⟩

theorem outbox_endTaskWith (s : Session) (t : Task) (x : Action Unit) :
    (s.endTaskWith t x).outbox = (x.run s).2.outbox := by
  obtain ⟨failure, hend⟩ := s.exists_endTaskWith t x
  rw [hend]
  rfl

/-- The turn of a task whose request has a handler and parameters of its shape is what the handler
makes of them. -/
theorem beginTask_eq_goOn (hs : s.CanAnswer R)
    (hm : R.getRequest t.request.method = .ok (m, replies))
    (hhandler : handlerOf s.requestHandlers t.request.method = some h) {params : Value}
    (hparams : (R.decodeParams Catalog.family t.request.method t.request.params).outcome =
      .ok params) :
    ∃ s' : Session, s'.CanAnswer R ∧ s'.outbox = s.outbox ∧
      s.beginTask t = s'.goOn t (h params) := by
  obtain ⟨hfound, hreplies⟩ := Registry.getRequest_ok_iff.1 hm
  have hrequest : m.isRequest = true := by
    rw [Method.isRequest, hreplies]
    rfl
  have hfound' : s.registry.find? t.request.method = some m := hs.registry ▸ hfound
  unfold beginTask
  dsimp only
  split
  · next m' handler hm' hhandler' =>
    cases hfound'.symm.trans hm'
    cases hhandler.symm.trans hhandler'
    rw [hrequest, Bool.not_true, if_neg Bool.false_ne_true]
    split
    · next p s' hdecoded =>
      rw [Action.run_ofTraced] at hdecoded
      obtain ⟨houtcome, rfl⟩ := Prod.mk.inj hdecoded
      have houtcome : (s.registry.decodeParams s.family t.request.method
          t.request.params).outcome.mapError EndpointError.refused = .ok p := houtcome
      rw [hs.family, hs.registry, hparams] at houtcome
      cases houtcome
      refine ⟨_, ?_, ?_, rfl⟩
      · exact ⟨hs.family, hs.registry, hs.accepts⟩
      · rfl
    · next e s' hdecoded =>
      rw [Action.run_ofTraced] at hdecoded
      have houtcome : (s.registry.decodeParams s.family t.request.method
          t.request.params).outcome.mapError EndpointError.refused = .error e :=
        (Prod.mk.inj hdecoded).1
      rw [hs.family, hs.registry, hparams] at houtcome
      cases houtcome
  · next hnone =>
    exact absurd hhandler (hnone m h hfound')

/-- What a task sends when its handler has come to an end. -/
theorem outbox_goOn {c : Conclusion} {stop : Stop} {s' : Session}
    (hadvance : b.advance s = (stop, s'))
    (hstop : s'.afterStop t stop = s'.endTaskWith t (c.action t.request)) :
    (s.goOn t b).outbox = ((c.action t.request).run s').2.outbox := by
  unfold goOn
  rw [hadvance, ← outbox_endTaskWith]
  exact congrArg Session.outbox hstop

end Session

namespace Catalog

open Session

/-- The turn of a task whose request is as it should be is what the handler does, and when the
handler returns or fails, the task sends one response, which the other side accepts. The exception
is an error with data where the request has an error of its own: nothing is sent then. -/
theorem handler_outcomes_answered (hR : R ∈ registries) (t : Task) {m : Method} {replies : Replies}
    (hm : R.getRequest t.request.method = .ok (m, replies)) {s : Session} (hs : s.CanAnswer R) :
    (∀ h params, handlerOf s.requestHandlers t.request.method = some h →
      (R.decodeParams family t.request.method t.request.params).outcome = .ok params →
        ∃ s' : Session, s'.CanAnswer R ∧ s'.outbox = s.outbox ∧
          s.beginTask t = s'.goOn t (h params)) ∧
    ∀ b stop s', b.advance s = (stop, s') →
      (∀ v, stop = .returned v → ∃ answer, t.request.IsAnsweredBy R answer ∧
        (s.goOn t b).outbox = s'.outbox ++ [answer]) ∧
      (∀ e, stop = .raised e → e.IsAnswerable R t.request.method →
        ∃ answer, t.request.IsAnsweredBy R answer ∧
          (s.goOn t b).outbox = s'.outbox ++ [answer]) ∧
      ∀ code message data : Value, stop = .raised (.raised code message data) →
        code.integer?.isSome = true → message.text?.isSome = true → data.IsJson →
          data.isNull = false → replies.error = initializeResponseError.shape →
            (s.goOn t b).outbox = s'.outbox := by
  refine ⟨fun h params hhandler hparams => beginTask_eq_goOn hs hm hhandler hparams,
    fun b stop s' hadvance => ?_⟩
  have hs' : s'.CanAnswer R := by
    have hsetting := (b.sameService_advance s).setting
    rw [hadvance] at hsetting
    exact hs.of_setting hsetting
  refine ⟨?_, ?_, ?_⟩
  · rintro v rfl
    rw [outbox_goOn (c := .returned v) hadvance rfl]
    exact Conclusion.answersOnce hR hs' _ nofun nofun
  · rintro e rfl he
    rw [outbox_goOn (c := .raised e) hadvance rfl]
    exact Conclusion.answersOnce hR hs' _ (by rintro _ ⟨⟩; exact he) nofun
  · rintro code message data rfl hcode htext hdata hnull hown
    rw [outbox_goOn (c := .raised (.raised code message data)) hadvance rfl]
    exact Action.outbox_serveParts_of_own hs' hm hown hcode htext hdata hnull

/-- A result of the wrong shape is answered with an error. -/
theorem handler_outcomes_answered_shutdown :
    ∃ answer, IncomingRequest.IsAnsweredBy ⟨.number 1, "shutdown", .null⟩ legacy answer ∧
      ((start family legacy).goOn ⟨0, ⟨.number 1, "shutdown", .null⟩, .created, false⟩
        (.give (.text "no"))).outbox = [answer] := by
  have hfound : legacy.getRequest "shutdown" = .ok (request "shutdown" .null .null, _) :=
    getRequest_name (.tail _ (.head _)) (.tail _ (.head _)) rfl
  have hs : (start family legacy).CanAnswer legacy := ⟨rfl, rfl, rfl⟩
  have hanswered := handler_outcomes_answered (.tail _ (.head _))
    ⟨0, ⟨.number 1, "shutdown", .null⟩, .created, false⟩ hfound hs
  exact (hanswered.2 (.give (.text "no")) _ _ rfl).1 _ rfl

/-- An error with JSON data in reply to the first request is not answered. -/
theorem error_with_data_unanswered :
    ((start family legacy).goOn ⟨0, ⟨.number 1, "initialize", .null⟩, .created, false⟩
      (.raise (.raised (.int 1) (.text "boom") (.object [("retry", .bool true)])))).outbox =
        [] := by
  have hfound : legacy.getRequest "initialize" = .ok (requestOr "initialize" _ _ _, _) :=
    getRequest_name (.tail _ (.head _)) (.head _) rfl
  have hs : (start family legacy).CanAnswer legacy := ⟨rfl, rfl, rfl⟩
  have hdata : (Value.object [("retry", .bool true)]).IsJson := by
    refine .object fun e he => ?_
    cases List.mem_singleton.1 he
    exact .bool true
  let c : Conclusion := .raised (.raised (.int 1) (.text "boom") (.object [("retry", .bool true)]))
  rw [outbox_goOn (c := c) rfl rfl]
  exact Action.outbox_serveParts_of_own hs hfound rfl rfl rfl hdata rfl

end Catalog

end EditorProtocol
