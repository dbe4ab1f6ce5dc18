import EditorProtocol.Catalog.Legacy
import EditorProtocol.Proofs.Codec.Closed
import EditorProtocol.Proofs.Method.Lifecycle
import EditorProtocol.Proofs.Method.Replies

/-!
Replies that failed. A reply is known to have failed by the value of its error, which is null in no
other reply. Decoding keeps null apart from everything else, so an error that is not null is one of
a failed reply; a null that the shape of errors takes is lost, and its reply passes for a successful
one.
-/

namespace EditorProtocol

variable {F : Family} {R : Registry} {m : Method} {replies : Replies} {name : String}
  {reply : Reply} {v w u : Value} {exact : Bool}

/-! ### Null on the wire -/

theorem Primitive.isNull_of_accept {p : Primitive} (h : p.accept w = .ok v) :
    v.isNull = w.isNull := by
  cases accepts_of_accept h with
  | text _ htext => cases w <;> first | rfl | cases htext
  | integer _ hinteger => cases w <;> first | rfl | cases hinteger
  | nearest _ hinteger => cases w <;> first | rfl | cases hinteger
  | _ => rfl

theorem EnumShape.isNull_of_decode {e : EnumShape} (h : e.decode w = .ok v) :
    v.isNull = w.isNull := by
  unfold decode at h
  obtain ⟨code, hcode, hv⟩ := bind_eq_ok.1 h
  obtain ⟨rfl, hadmits⟩ := accept_ok_iff.1 hcode
  cases hv
  cases e.memberOf? code with
  | none => rfl
  | some k => exact (Codes.isNull_of_admits hadmits).symm

/-- Null is decoded to null, and nothing else is. -/
theorem isNull_of_decode (s : Shape) (h : (decode F exact w s).outcome = .ok v) :
    v.isNull = w.isNull := by
  cases s with
  | primitive p =>
      rw [decode] at h
      exact Primitive.isNull_of_accept h
  | enumeration e =>
      rw [decode] at h
      exact EnumShape.isNull_of_decode h
  | any =>
      rw [decode, Traced.outcome_of] at h
      obtain ⟨_, _, h⟩ := bind_eq_ok.1 h
      cases h
      rfl
  | nullable inner =>
      rw [decode] at h
      split at h
      · next hnull =>
        cases h
        exact hnull.symm
      · exact isNull_of_decode inner h
  | sequence element =>
      obtain ⟨xs, vs, rfl, rfl, _⟩ := decode_sequence_inv h
      rfl
  | union alternatives =>
      obtain ⟨s, hs, h⟩ := decode_union_inv h
      exact isNull_of_decode s h
  | record ref =>
      have hobject := isObject_of_decode h
      have hw : w.isNull = false := by
        cases w <;> first | rfl | cases hobject
      rw [hw]
      cases hfind : F.find? ref with
      | none =>
          rw [decode_record_unknown hfind h]
          rfl
      | some model =>
          obtain ⟨_, _, _, h⟩ := decode_record_known hfind h
          obtain ⟨slots, _, hcomplete⟩ := Model.assemble_inv h
          rw [(Model.complete_inv hcomplete).2.1]
          rfl
termination_by sizeOf s
decreasing_by
  all_goals subst_vars
  · exact Shape.sizeOf_lt_of_mem hs
  · simp +arith

/-! ### Accepted replies -/

/-- A mismatch becomes a result, and so does a value. -/
theorem Traced.outcome_attempt_inv {α : Type} {x : Traced Fault α} {r : Except Mismatch α}
    (h : x.attempt.outcome = .ok r) :
    (∃ a, r = .ok a ∧ x.outcome = .ok a) ∨ ∃ e, r = .error e ∧ Refused x.outcome := by
  unfold attempt at h
  split at h
  · next a ha =>
    cases h
    exact .inl ⟨a, rfl, ha⟩
  · next e he =>
    cases h
    exact .inr ⟨e, rfl, e, he⟩
  · cases h

namespace Registry

/-- An accepted response has either a result or an error, which is decoded in its shape. -/
theorem acceptResponse_inv (hm : R.getRequest name = .ok (m, replies))
    (h : (R.acceptResponse F name w).outcome = .ok reply) :
    (∃ x u, w.at? "result" = some x ∧ w.at? "error" = none ∧
      (decode F false x replies.result).outcome = .ok u ∧ reply = ⟨m, u, .null, x⟩) ∨
    ∃ x u, w.at? "result" = none ∧ w.at? "error" = some x ∧
      (decode F false x replies.error).outcome = .ok u ∧ reply = ⟨m, .null, u, x⟩ := by
  have hobject : w.isObject = true := by
    unfold acceptResponse at h
    rw [Traced.outcome_bind, Traced.outcome_of, hm, ok_bind] at h
    dsimp only at h
    split at h
    · cases h
    · next hobject => simpa using hobject
  cases hresult : w.at? "result" with
  | some x =>
      cases herror : w.at? "error" with
      | some y =>
          unfold acceptResponse at h
          rw [Traced.outcome_bind, Traced.outcome_of, hm, ok_bind] at h
          simp only [hobject, hresult, herror] at h
          cases h
      | none =>
          rw [acceptResponse_result_eq hm hobject hresult herror] at h
          obtain ⟨u, hu, h⟩ := bind_eq_ok.1 h
          cases h
          exact .inl ⟨x, u, rfl, rfl, underSegment_eq_ok.1 (mapError_ok_iff.1 hu), rfl⟩
  | none =>
      cases herror : w.at? "error" with
      | some x =>
          rw [acceptResponse_error_eq hm hobject hresult herror] at h
          obtain ⟨u, hu, h⟩ := bind_eq_ok.1 h
          cases h
          exact .inr ⟨x, u, rfl, rfl, underSegment_eq_ok.1 (mapError_ok_iff.1 hu), rfl⟩
      | none =>
          unfold acceptResponse at h
          rw [Traced.outcome_bind, Traced.outcome_of, hm, ok_bind] at h
          simp only [hobject, hresult, herror] at h
          cases h

/-- An accepted payload is taken for a result and not for an error, or the other way around. -/
theorem acceptResult_inv (hm : R.getRequest name = .ok (m, replies))
    (h : (R.acceptResult F name w).outcome = .ok reply) :
    (∃ u, (decode F false w replies.result).outcome = .ok u ∧
      Refused (decode F false w replies.error).outcome ∧ reply = ⟨m, u, .null, w⟩) ∨
    ∃ u, Refused (decode F false w replies.result).outcome ∧
      (decode F false w replies.error).outcome = .ok u ∧ reply = ⟨m, .null, u, w⟩ := by
  unfold acceptResult at h
  rw [Traced.outcome_bind, Traced.outcome_of, hm, ok_bind] at h
  simp only [Traced.outcome_bind, Traced.outcome_mapError] at h
  obtain ⟨result, hresult, h⟩ := bind_eq_ok.1 h
  obtain ⟨error, herror, h⟩ := bind_eq_ok.1 h
  rcases Traced.outcome_attempt_inv (mapError_ok_iff.1 hresult) with ⟨a, rfl, ha⟩ | ⟨e, rfl, ha⟩ <;>
    rcases Traced.outcome_attempt_inv (mapError_ok_iff.1 herror) with ⟨b, rfl, hb⟩ | ⟨f, rfl, hb⟩
  · cases h
  · cases h
    exact .inl ⟨a, ha, hb, rfl⟩
  · cases h
    exact .inr ⟨b, ha, hb, rfl⟩
  · cases h

end Registry

/-! ### Failure -/

namespace Reply

theorem failed_result (m : Method) (u x : Value) : (Reply.mk m u .null x).failed = false := rfl

/-- A reply with an error that was decoded failed exactly if the error is not null on the wire. -/
theorem failed_error {s : Shape} (m : Method) (x : Value)
    (h : (decode F exact w s).outcome = .ok u) :
    (Reply.mk m .null u x).failed = true ↔ w ≠ .null := by
  show (!u.isNull) = true ↔ _
  rw [isNull_of_decode s h, Bool.not_eq_true', ← Bool.not_eq_true, Value.isNull_iff]

/-- The response that a reply is written as has an error exactly if the reply failed, and a result
exactly if it did not. -/
theorem message_parts (r : Reply) (id : Value) :
    ((r.message id).at? "error").isSome = r.failed ∧
      ((r.message id).at? "result").isSome = !r.failed := by
  unfold message
  cases r.failed <;> exact ⟨rfl, rfl⟩

end Reply

namespace Registry

/-- An accepted response is a failed reply exactly if it carries an error that is not null. -/
theorem failed_of_acceptResponse (hm : R.getRequest name = .ok (m, replies))
    (h : (R.acceptResponse F name w).outcome = .ok reply) :
    reply.failed = true ↔ ∃ e, w.at? "error" = some e ∧ e ≠ .null := by
  rcases acceptResponse_inv hm h with ⟨x, u, _, hnone, _, rfl⟩ | ⟨x, u, _, hat, hu, rfl⟩
  · simp [Reply.failed_result, hnone]
  · rw [Reply.failed_error m x hu, hat]
    simp

/-- An accepted payload is a failed reply exactly if it is taken for an error and is not null. -/
theorem failed_of_acceptResult (hm : R.getRequest name = .ok (m, replies))
    (h : (R.acceptResult F name w).outcome = .ok reply) :
    reply.failed = true ↔ w ≠ .null ∧ replies.error.Takes F w := by
  rcases acceptResult_inv hm h with ⟨u, _, hrefused, rfl⟩ | ⟨u, _, hu, rfl⟩
  · have hnone : ¬replies.error.Takes F w := fun ⟨e, he⟩ => hrefused.ne_ok e he
    simp [Reply.failed_result, hnone]
  · rw [Reply.failed_error m w hu]
    exact (and_iff_left ⟨u, hu⟩).symm

/-- No error in a response goes unnoticed exactly if null is not taken for an error. -/
theorem errors_noticed_iff (hm : R.getRequest name = .ok (m, replies)) :
    (∀ w reply, (R.acceptResponse F name w).outcome = .ok reply →
      (reply.failed = true ↔ (w.at? "error").isSome = true)) ↔ ¬replies.error.Takes F .null := by
  constructor
  · rintro hall ⟨u, hu⟩
    -- The response with nothing but a null for its error is accepted.
    let response : Value := .object [("error", .null)]
    have haccept := acceptResponse_error hm (rfl : response.isObject = true) rfl rfl hu
    have hfailed := (hall response _ haccept).2 rfl
    exact (Reply.failed_error m .null hu).1 hfailed rfl
  · intro hnull w reply h
    rw [failed_of_acceptResponse hm h]
    rcases acceptResponse_inv hm h with ⟨x, u, _, hnone, _, rfl⟩ | ⟨x, u, _, hat, hu, rfl⟩
    · simp [hnone]
    · have hx : x ≠ .null := fun hx => hnull ⟨u, hx ▸ hu⟩
      simp [hat, hx]

/-- No payload that is accepted as an error goes unnoticed exactly if null is not accepted so. -/
theorem error_payloads_noticed_iff (hm : R.getRequest name = .ok (m, replies)) :
    (∀ w reply, (R.acceptResult F name w).outcome = .ok reply → replies.error.Takes F w →
      reply.failed = true) ↔
        (replies.error.Takes F .null →
          ¬Refused (decode F false .null replies.result).outcome) := by
  constructor
  · rintro hall ⟨u, hu⟩ hrefused
    have hfailed := hall _ _ (acceptResult_error hm hrefused hu) ⟨u, hu⟩
    exact (Reply.failed_error m .null hu).1 hfailed rfl
  · intro hnull w reply h htakes
    refine (failed_of_acceptResult hm h).2 ⟨fun hw => ?_, htakes⟩
    subst hw
    rcases acceptResult_inv hm h with ⟨u, _, hrefused, rfl⟩ | ⟨u, hrefused, _, rfl⟩
    · obtain ⟨e, he⟩ := htakes
      exact hrefused.ne_ok e he
    · exact hnull htakes hrefused

/-- An accepted response is a failed reply exactly if it carries an error that is not null; then a
request that waits for it fails, and the reply is written with an error again. An accepted payload
is a failed reply exactly if it is taken for an error and is not null. So no error goes unnoticed
exactly if null is not taken for an error, or in payloads if it is taken for a result, too. -/
theorem failed_iff_error (F : Family) (hm : R.getRequest name = .ok (m, replies)) :
    (∀ w reply, (R.acceptResponse F name w).outcome = .ok reply →
      (reply.failed = true ↔ ∃ e, w.at? "error" = some e ∧ e ≠ .null) ∧
      (∀ id, ((reply.message id).at? "error").isSome = reply.failed) ∧
      ∀ p : PendingRequest, p.state = .awaitingReply →
        reply.method.same p.request.method = true →
          ∃ q, p.resolve reply = .ok q ∧
            q.state = if reply.failed then .failed else .completed) ∧
    (∀ w reply, (R.acceptResult F name w).outcome = .ok reply →
      (reply.failed = true ↔ w ≠ .null ∧ replies.error.Takes F w)) ∧
    ((∀ w reply, (R.acceptResponse F name w).outcome = .ok reply →
      (reply.failed = true ↔ (w.at? "error").isSome = true)) ↔ ¬replies.error.Takes F .null) ∧
    ((∀ w reply, (R.acceptResult F name w).outcome = .ok reply → replies.error.Takes F w →
      reply.failed = true) ↔
        (replies.error.Takes F .null →
          ¬Refused (decode F false .null replies.result).outcome)) := by
  refine ⟨fun w reply h => ⟨failed_of_acceptResponse hm h, fun id => (reply.message_parts id).1,
    fun p hwaits hsame => ?_⟩, fun w reply h => failed_of_acceptResult hm h,
    errors_noticed_iff hm, error_payloads_noticed_iff hm⟩
  exact ⟨_, PendingRequest.resolve_ok_iff.2 ⟨hsame, hwaits, rfl⟩, rfl⟩

end Registry

section Shutdown

open Catalog

/-- The error of a shutdown is a record, so it is noticed in every response and payload. -/
theorem failed_iff_error_shutdown :
    legacy.getRequest "shutdown" =
        .ok (request "shutdown" .null .null, ⟨.null, .record responseError.ref⟩) ∧
      (∀ w reply, (legacy.acceptResponse family "shutdown" w).outcome = .ok reply →
        (reply.failed = true ↔ (w.at? "error").isSome = true)) ∧
      ∀ w reply, (legacy.acceptResult family "shutdown" w).outcome = .ok reply →
        (Shape.record responseError.ref).Takes family w → reply.failed = true := by
  have hm : legacy.getRequest "shutdown" =
      .ok (request "shutdown" .null .null, ⟨.null, .record responseError.ref⟩) := rfl
  have hnull : ¬(Shape.record responseError.ref).Takes family .null := by
    rintro ⟨u, hu⟩
    cases isObject_of_decode hu
  obtain ⟨_, _, hresponse, hpayload⟩ := Registry.failed_iff_error family hm
  exact ⟨hm, hresponse.2 hnull, hpayload.2 fun h => absurd h hnull⟩

end Shutdown

section Unnoticed

/-- A request for an integer whose error is an integer, too, or null. -/
def tally : Method :=
  ⟨"tally", some .null, some ⟨.ofKind .integer, .nullable (.ofKind .integer)⟩⟩

/-- A registry with nothing but that request. -/
def tallies : Registry := ⟨"tallies", "1", [tally], false⟩

/-- The response to such a request that carries null for its error is accepted as a success: the
reply is written with a result, and the request that waits for it completes. -/
theorem null_error_succeeds :
    let response : Value :=
      .object [("jsonrpc", envelopeVersion), ("id", .int 1), ("error", .null)]
    let reply : Reply := ⟨tally, .null, .null, .null⟩
    let pending : PendingRequest :=
      ⟨.int 1, ⟨tally, .null, .null⟩, .awaitingReply, none, false⟩
    (Registry.empty "tallies" "1").request ⟨[]⟩ (.text "tally") .null .integer
        (.optional .integer) = .ok tallies ∧
      (tallies.acceptResponse ⟨[]⟩ "tally" response).outcome = .ok reply ∧
      (tallies.acceptResult ⟨[]⟩ "tally" .null).outcome = .ok reply ∧
      response.at? "error" = some .null ∧ reply.failed = false ∧
      reply.message (.int 1) =
        .object [("jsonrpc", envelopeVersion), ("id", .int 1), ("result", .null)] ∧
      pending.resolve reply = .ok { pending with state := .completed, reply := some reply } := by
  have hm : tallies.getRequest "tally" =
      .ok (tally, ⟨.ofKind .integer, .nullable (.ofKind .integer)⟩) := rfl
  have hnull : (decode ⟨[]⟩ false .null (.nullable (.ofKind .integer))).outcome = .ok .null := by
    rw [decode]
    rfl
  have hinteger : Refused (decode ⟨[]⟩ false .null (.ofKind .integer)).outcome := by
    rw [Shape.ofKind, decode]
    exact ⟨_, rfl⟩
  have hfinite : Registry.checkShapes ⟨[]⟩ tally.shapes = .ok () := by cbv
  have hrequested : (Registry.empty "tallies" "1").request ⟨[]⟩ (.text "tally") .null .integer
      (.optional .integer) = Registry.checkShapes ⟨[]⟩ tally.shapes >>= fun _ => .ok tallies := rfl
  refine ⟨?_, ?_, ?_, rfl, rfl, rfl, rfl⟩
  · rw [hrequested, hfinite, ok_bind]
  · exact Registry.acceptResponse_error hm rfl rfl rfl hnull
  · exact Registry.acceptResult_error hm hinteger hnull

end Unnoticed

end EditorProtocol
