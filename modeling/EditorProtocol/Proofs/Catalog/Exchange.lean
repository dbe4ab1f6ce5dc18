import EditorProtocol.Proofs.Catalog.Messages
import EditorProtocol.Proofs.Catalog.TakenBack
import EditorProtocol.Proofs.Endpoint.Desk

/-!
One request of the catalogs and its reply. The message of a request is accepted as that request,
with parameters that the receiver reads as the ones that were sent; and what its handler ends with
comes back to the caller as the same result or the same error.
-/

namespace EditorProtocol

variable {F : Family} {R : Registry} {r : IncomingRequest} {m : Method} {replies : Replies}
  {v : Value} {x : Except EndpointError Value} {s : Session}

/-! ### Requests -/

/-- The request that a message is accepted as, if it is. -/
def Value.request? (F : Family) (m : Value) : Option IncomingRequest :=
  match m.has "method", m.has "id", Catalog.requestMessage.validate F m with
  | .ok true, .ok true, .ok v => some (.ofRecord v)
  | _, _, _ => none

theorem Value.request?_eq_some_iff {m : Value} :
    m.request? F = some r ↔ m.Requests F r := by
  unfold request?
  constructor
  · intro h
    split at h
    · next v hmethod hid hvalid =>
      cases h
      exact ⟨hmethod, hid, v, hvalid, rfl⟩
    · cases h
  · rintro ⟨hmethod, hid, v, hvalid, rfl⟩
    rw [hmethod, hid, hvalid]

/-- Parameters for a method: wire values, or typed values of exactly the declared models. -/
def Method.Fits (m : Method) (params : Value) : Prop :=
  params.IsJson ∨ ∃ s, m.params = some s ∧ Conforms Catalog.family s params

namespace Catalog

/-- The message of a request is accepted as that request. -/
theorem requests_message (e : Request) (id : RequestId) (hpayload : e.payload.IsJson) :
    (e.message id.value).Requests family ⟨id, e.method.name, e.payload⟩ := by
  cases hnull : e.payload.isNull with
  | true =>
      have hmessage : e.message id.value = .object [("jsonrpc", .text "2.0"), ("id", id.value),
          ("method", .text e.method.name)] := by
        unfold Request.message paramsEntry
        rw [hnull]
        rfl
      rw [hmessage, Value.isNull_iff.1 hnull]
      exact requests_bare id e.method.name
  | false =>
      have hmessage : e.message id.value = .object [("jsonrpc", .text "2.0"), ("id", id.value),
          ("method", .text e.method.name), ("params", e.payload)] := by
        unfold Request.message paramsEntry
        rw [hnull]
        rfl
      rw [hmessage]
      have hfilled : requestMessage.Filled family fun d =>
          Value.lookup [("jsonrpc", .text "2.0"), ("id", id.value),
            ("method", .text e.method.name), ("params", e.payload)] d.name := by
        refine Model.filled_of_fields (List.forall_mem_cons.2 ⟨.inl ⟨_, rfl, ?_⟩,
          List.forall_mem_cons.2 ⟨.inl ⟨_, rfl, requestId_conforms id⟩,
            List.forall_mem_cons.2 ⟨.inl ⟨_, rfl, .text rfl e.method.name⟩,
              List.forall_mem_cons.2 ⟨.inl ⟨_, rfl, .any hpayload⟩,
                List.forall_mem_nil _⟩⟩⟩⟩)
        exact .code rfl rfl (.text "2.0")
      have hfound : family.find? requestMessage.ref = some requestMessage := rfl
      have hregular := (family_regular.model hfound).1
      have hfit := Model.fitFields_entries family_regular hregular hfilled
      refine ⟨rfl, rfl, _, Model.make_of_fitFields hregular hfit rfl, ?_⟩
      cases id <;> rfl

/-- The parameters of a request travel as JSON, and the receiver reads the ones that were sent. -/
theorem params_delivered (hR : R ∈ registries) {name : String} {p : Value} {e : Request}
    (hbuild : (R.buildRequest family name p).outcome = .ok e) (hfits : e.method.Fits p) :
    ∃ s q, e.method.params = some s ∧ e.payload.IsJson ∧
      (R.decodeParams family name e.payload).outcome = .ok q ∧ Conforms family s q ∧
      q.SameFields family e.params := by
  obtain ⟨⟨hfind, _⟩, hconform⟩ := Registry.buildRequest_ok_iff.1 hbuild
  obtain ⟨s, hs, hregular, hstructured⟩ := exists_params hR (Registry.mem_of_find? hfind)
  have hread : ∀ {q : Value}, e.payload.IsJson →
      (decode family false e.payload s).outcome = .ok q → q.SameFields family e.params →
      ∃ s q, e.method.params = some s ∧ e.payload.IsJson ∧
        (R.decodeParams family name e.payload).outcome = .ok q ∧ Conforms family s q ∧
        q.SameFields family e.params := fun hjson hdecode hsame =>
    ⟨s, _, hs, hjson, (Registry.decodeParams_ok_iff hfind hs).2 hdecode,
      ((decode_sound family_regular hregular hjson).2 _ hdecode).1, hsame⟩
  have hwire : p.IsJson → ∃ s q, e.method.params = some s ∧ e.payload.IsJson ∧
      (R.decodeParams family name e.payload).outcome = .ok q ∧ Conforms family s q ∧
      q.SameFields family e.params := by
    intro hp
    obtain ⟨hv, hw⟩ := (Method.conform_wire_iff hs hp.isTyped).1 hconform
    obtain ⟨hjson, _, hdecode⟩ := decode_canon family_regular hregular hp hv
    have hpayload : e.payload = canon family p s :=
      Except.ok.inj (hw.symm.trans (encode_of_decode family_regular hregular hp hv))
    rw [← hpayload] at hjson hdecode
    exact hread hjson hdecode rfl
  rcases hfits with hp | ⟨s', hs', hp⟩
  · exact hwire hp
  · cases hs.symm.trans hs'
    rcases hp.isTyped_or_null hstructured with htyped | rfl
    · obtain ⟨rfl, hw⟩ := (Method.conform_typed_iff hs htyped).1 hconform
      obtain ⟨w, hdelivers, _⟩ := hp.delivers family_regular hregular
      cases hdelivers.encoded.symm.trans hw
      exact hread hdelivers.json hdelivers.decoded (hp.sameFields_settled family_regular hregular)
    · exact hwire .null

end Catalog

/-! ### Replies -/

/-- What a handler may end with: a conforming result, or an error of the contract without data. -/
inductive Replies.Allows (F : Family) (replies : Replies) : Except EndpointError Value → Prop
  | result {v : Value} (conforms : Conforms F replies.result v) : Allows F replies (.ok v)
  | replied (code : Int) (text : String) :
      Allows F replies (.error (.replied ⟨code, text, .null⟩))
  | raised {code message : Value} (integer : code.integer?.isSome = true)
      (text : message.text?.isSome = true) :
      Allows F replies (.error (.raised code message .null))

/-- How a call with a label ends if its handler has ended with an outcome: it is answered with the
result, or fails with the code and the message of the error. -/
inductive ComesBack (F : Family) (label : String) : Except EndpointError Value → Event → Prop
  | result {v u : Value} (same : u.SameFields F v) : ComesBack F label (.ok v) (.answered label u)
  | replied (e : LspError) : ComesBack F label (.error (.replied e)) (.failed label (.replied e))
  | raised {code message : Value} {n : Int} {text : String} (integer : code.integer? = some n)
      (isText : message.text? = some text) :
      ComesBack F label (.error (.raised code message .null))
        (.failed label (.replied ⟨n, text, .null⟩))

/-- A handler that keeps to its method: whatever conforming parameters it gets, it only waits, and
ends as the method allows. -/
def Handler.KeepsTo (h : Handler) (m : Method) (replies : Replies) : Prop :=
  ∀ s params, m.params = some s → Conforms Catalog.family s params →
    ∃ x, (h params).Ends x ∧ replies.Allows Catalog.family x

namespace Catalog

/-- An error record without data is written for every request, and tells the same when it is read
back. -/
theorem error_delivered (code : Int) (text : String) {E : Model}
    (hE : E = responseError ∨ E = initializeResponseError) :
    ∃ w u, encode family (.record responseError.ref (errorSlots code text .null)) E.shape = .ok w ∧
      (decode family false w E.shape).outcome = .ok u ∧
      ∀ m, (Reply.mk m .null u w).failed = true ∧
        (Reply.mk m .null u w).lspError = ⟨code, text, .null⟩ := by
  rcases hE with rfl | rfl
  · have hfind : family.find? responseError.ref = some responseError := rfl
    obtain ⟨w, hw, _⟩ := (error_conforms code text .null).delivers family_regular rfl
    refine ⟨w, _, hw.encoded, hw.decoded, fun m => ?_⟩
    rw [Value.settled_record hfind]
    exact ⟨rfl, rfl⟩
  · have hfind : family.find? initializeResponseError.ref = some initializeResponseError := rfl
    obtain ⟨w, hw, _⟩ := (bareError_conforms code text).delivers family_regular rfl
    have hdeclares : ∀ d ∈ initializeResponseError.fields,
        responseError.declares d.name = true := by
      decide +kernel
    refine ⟨w, _, encode_record_of_own family_regular rfl rfl hdeclares hw.encoded, hw.decoded,
      fun m => ?_⟩
    rw [Value.settled_record hfind]
    exact ⟨rfl, rfl⟩

/-- A response to a request of a method tells what the handler has ended with: the caller accepts
it, and its call ends with just that. -/
def Tells (R : Registry) (method : String) (x : Except EndpointError Value) (response : Value) :
    Prop :=
  ∃ a, (R.acceptResponse family method response).outcome = .ok a ∧
    ∀ c : Caller, ComesBack family c.label x (Session.outcomeEvent c (.ok a))

/-- A reply is built from an error without data, and tells its code and its message. -/
theorem error_tells (hR : R ∈ registries) (hm : R.getRequest r.method = .ok (m, replies))
    (code : Int) (text : String) :
    ∃ reply, R.buildReply family r.method .null
        (.record responseError.ref (errorSlots code text .null)) = .ok reply ∧
      ∀ id, ∃ a, (R.acceptResponse family r.method (reply.message id)).outcome = .ok a ∧
        ∀ c : Caller, Session.outcomeEvent c (.ok a) =
          .failed c.label (.replied ⟨code, text, .null⟩) := by
  obtain ⟨hmem, hreplies⟩ := replies_of_request hm
  have hshape := error_shapes R hR m hmem
  rw [hreplies, Option.all_some, decide_eq_true_eq] at hshape
  obtain ⟨E, hE, hown⟩ : ∃ E, (E = responseError ∨ E = initializeResponseError) ∧
      replies.error = E.shape := by
    rcases hshape with hgeneral | hown
    · exact ⟨_, .inl rfl, hgeneral⟩
    · exact ⟨_, .inr rfl, hown⟩
  obtain ⟨w, u, hencode, hdecode, htells⟩ := error_delivered code text hE
  rw [← hown] at hencode hdecode
  refine ⟨_, Registry.buildReply_error hm hencode rfl .null, fun id =>
    ⟨_, Registry.acceptResponse_error hm rfl rfl rfl hdecode, fun c => ?_⟩⟩
  obtain ⟨hfailed, hsays⟩ := htells m
  unfold Session.outcomeEvent
  dsimp only
  rw [hfailed, hsays]
  rfl

end Catalog

section Answers

variable (hR : R ∈ Catalog.registries) (hs : s.CanAnswer R)
  (hm : R.getRequest r.method = .ok (m, replies))
include hR hs hm

/-- An error without data is answered with a response that tells its code and its message. -/
theorem Action.sends_serveParts {code message : Value} {n : Int} {text : String}
    (hcode : code.integer? = some n) (htext : message.text? = some text) :
    ∃ reply : Reply, (serveParts r code message .null).Sends s (reply.message r.id.value) ∧
      ∃ a, (R.acceptResponse Catalog.family r.method (reply.message r.id.value)).outcome = .ok a ∧
        ∀ c : Caller, Session.outcomeEvent c (.ok a) =
          .failed c.label (.replied ⟨n, text, .null⟩) := by
  obtain ⟨reply, hreply, htells⟩ := Catalog.error_tells hR hm n text
  refine ⟨reply, ?_, htells r.id.value⟩
  unfold serveParts Sends
  rw [run_get_bind, hs.family, Catalog.make_error hcode htext .null]
  show ∃ log, (serveRecord r _).run s = _
  unfold serveRecord
  rw [run_get_bind, hs.family, hs.registry, hreply, run_bind, run_ofTraced]
  exact sends_transmit (s := (s.note _).report _ _) hs.accepts

/-- A task whose handler has ended as its method allows sends one response, which tells the caller
what the handler has ended with. -/
theorem Replies.Allows.answered (h : replies.Allows Catalog.family x) :
    ∃ reply : Reply, ((Conclusion.ofOutcome x).action r).Sends s (reply.message r.id.value) ∧
      Catalog.Tells R r.method x (reply.message r.id.value) := by
  have hrequest : (s.registry.find? r.method).any (·.isRequest) = true := by
    obtain ⟨hfound, hreplies⟩ := Registry.getRequest_ok_iff.1 hm
    rw [hs.registry, hfound, Option.any_some, Method.isRequest, hreplies]
    rfl
  cases h with
  | @result v conforms =>
      obtain ⟨hmem, hreplies⟩ := Catalog.replies_of_request hm
      obtain ⟨hapart, hresult, _⟩ := Catalog.replies_regular hR hmem hreplies
      obtain ⟨w, hbuild, _, hresponse⟩ :=
        Registry.reply_result Catalog.family_regular hm hapart hresult conforms
      refine ⟨_, ?_, _, hresponse r.id.value, fun c => .result ?_⟩
      · show (Action.serveResult r v).Sends s _
        unfold Action.serveResult Action.Sends
        rw [Action.run_get_bind, hs.family, hs.registry, hbuild]
        exact Action.sends_transmit hs.accepts
      · exact conforms.sameFields_settled Catalog.family_regular hresult
  | replied code text =>
      have hcode : (Value.int code).integer? = some code := rfl
      have htext : (Value.text text).text? = some text := rfl
      obtain ⟨reply, hsends, a, haccept, hevent⟩ := Action.sends_serveParts hR hs hm hcode htext
      refine ⟨reply, ?_, a, haccept, fun c => ?_⟩
      · show (Action.serveError r ⟨code, text, .null⟩).Sends s _
        unfold Action.serveError Action.Sends
        rw [Action.run_get_bind, hrequest, if_pos rfl]
        exact hsends
      · rw [hevent]
        exact .replied _
  | @raised code message integer text =>
      obtain ⟨n, hn⟩ := Option.isSome_iff_exists.1 integer
      obtain ⟨t, ht⟩ := Option.isSome_iff_exists.1 text
      obtain ⟨reply, hsends, a, haccept, hevent⟩ := Action.sends_serveParts hR hs hm hn ht
      refine ⟨reply, hsends, a, haccept, fun c => ?_⟩
      rw [hevent]
      exact .raised hn ht

end Answers

end EditorProtocol
