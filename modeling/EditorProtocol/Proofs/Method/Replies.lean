import EditorProtocol.Proofs.Codec.Aside
import EditorProtocol.Proofs.Method.Registry

/-!
Replies to requests. A reply that was built from a result or from an error is taken for just that,
from its bare payload as well as from the whole response.
-/

namespace EditorProtocol

variable {F : Family} {R : Registry} {m : Method} {replies : Replies} {name : String}
  {v w u : Value}

/-- The error of a request is a record, and its result is aside from it. -/
def Replies.areApart (F : Family) (r : Replies) : Bool :=
  match r.error with
  | .record ref => r.result.isAside F ref
  | _ => false

theorem Replies.areApart_inv (h : replies.areApart F = true) :
    ∃ ref, replies.error = .record ref ∧ replies.result.isAside F ref = true := by
  unfold areApart at h
  split at h
  · next ref href => exact ⟨ref, href, h⟩
  · cases h

namespace Registry

/-! ### Building -/

theorem buildReply_result (hm : R.getRequest name = .ok (m, replies))
    (hw : encode F v replies.result = .ok w) :
    R.buildReply F name v .null = .ok ⟨m, v, .null, w⟩ := by
  unfold buildReply
  rw [hm, ok_bind]
  simp only [Value.isNull, if_true, hw]
  rfl

theorem buildReply_error (hm : R.getRequest name = .ok (m, replies))
    (hw : encode F v replies.error = .ok w) (hnull : v.isNull = false) (r : Value) :
    R.buildReply F name r v = .ok ⟨m, .null, v, w⟩ := by
  unfold buildReply
  rw [hm, ok_bind]
  simp only [hnull, Bool.false_eq_true, if_false, hw]
  rfl

/-! ### Accepting -/

theorem acceptResult_result (hm : R.getRequest name = .ok (m, replies))
    (hresult : (decode F false w replies.result).outcome = .ok u)
    (herror : Refused (decode F false w replies.error).outcome) :
    (R.acceptResult F name w).outcome = .ok ⟨m, u, .null, w⟩ := by
  obtain ⟨e, he⟩ := Traced.outcome_attempt_refused herror
  unfold acceptResult
  simp only [Traced.outcome_bind, Traced.outcome_of, hm, ok_bind, Traced.outcome_mapError,
    Traced.outcome_attempt_ok hresult, he]
  rfl

theorem acceptResult_error (hm : R.getRequest name = .ok (m, replies))
    (hresult : Refused (decode F false w replies.result).outcome)
    (herror : (decode F false w replies.error).outcome = .ok u) :
    (R.acceptResult F name w).outcome = .ok ⟨m, .null, u, w⟩ := by
  obtain ⟨e, he⟩ := Traced.outcome_attempt_refused hresult
  unfold acceptResult
  simp only [Traced.outcome_bind, Traced.outcome_of, hm, ok_bind, Traced.outcome_mapError,
    Traced.outcome_attempt_ok herror, he]
  rfl

/-- The result in a response is decoded in the shape of results. -/
theorem acceptResponse_result_eq (hm : R.getRequest name = .ok (m, replies)) {response : Value}
    (hobject : response.isObject = true) (hat : response.at? "result" = some w)
    (hnone : response.at? "error" = none) :
    (R.acceptResponse F name response).outcome =
      ((underSegment (.key "result") (decode F false w replies.result).outcome).mapError
        m.refusal >>= fun v => .ok ⟨m, v, .null, w⟩) := by
  unfold acceptResponse
  simp only [Traced.outcome_bind, Traced.outcome_of, hm, ok_bind, hobject, hat, hnone,
    Bool.not_true, Bool.false_eq_true, if_false, Traced.outcome_mapError, Traced.outcome_under,
    Traced.outcome_pure]

theorem acceptResponse_error_eq (hm : R.getRequest name = .ok (m, replies)) {response : Value}
    (hobject : response.isObject = true) (hnone : response.at? "result" = none)
    (hat : response.at? "error" = some w) :
    (R.acceptResponse F name response).outcome =
      ((underSegment (.key "error") (decode F false w replies.error).outcome).mapError
        m.refusal >>= fun v => .ok ⟨m, .null, v, w⟩) := by
  unfold acceptResponse
  simp only [Traced.outcome_bind, Traced.outcome_of, hm, ok_bind, hobject, hat, hnone,
    Bool.not_true, Bool.false_eq_true, if_false, Traced.outcome_mapError, Traced.outcome_under,
    Traced.outcome_pure]

theorem acceptResponse_result (hm : R.getRequest name = .ok (m, replies)) {response : Value}
    (hobject : response.isObject = true) (hat : response.at? "result" = some w)
    (hnone : response.at? "error" = none)
    (hresult : (decode F false w replies.result).outcome = .ok u) :
    (R.acceptResponse F name response).outcome = .ok ⟨m, u, .null, w⟩ := by
  rw [acceptResponse_result_eq hm hobject hat hnone, hresult]
  rfl

theorem acceptResponse_error (hm : R.getRequest name = .ok (m, replies)) {response : Value}
    (hobject : response.isObject = true) (hnone : response.at? "result" = none)
    (hat : response.at? "error" = some w)
    (herror : (decode F false w replies.error).outcome = .ok u) :
    (R.acceptResponse F name response).outcome = .ok ⟨m, .null, u, w⟩ := by
  rw [acceptResponse_error_eq hm hobject hnone hat, herror]
  rfl

/-! ### Replies on their way -/

/-- A conforming result is taken for the result, settled. -/
theorem reply_result (hF : F.Regular) (hm : R.getRequest name = .ok (m, replies))
    (hapart : replies.areApart F = true) (hresult : replies.result.isRegular F = true)
    (hv : Conforms F replies.result v) :
    ∃ w, R.buildReply F name v .null = .ok ⟨m, v, .null, w⟩ ∧
      (R.acceptResult F name w).outcome = .ok ⟨m, v.settled F, .null, w⟩ ∧
      ∀ id, (R.acceptResponse F name ((Reply.mk m v .null w).message id)).outcome =
        .ok ⟨m, v.settled F, .null, w⟩ := by
  obtain ⟨ref, herror, haside⟩ := Replies.areApart_inv hapart
  obtain ⟨w, hw, _⟩ := hv.delivers hF hresult
  have hrefused := hv.refused_aside hF hresult haside hw.encoded
  rw [← herror] at hrefused
  refine ⟨w, buildReply_result hm hw.encoded, acceptResult_result hm hw.decoded hrefused, ?_⟩
  exact fun id => acceptResponse_result hm rfl rfl rfl hw.decoded

/-- A conforming error is taken for the error, settled. -/
theorem reply_error (hF : F.Regular) (hm : R.getRequest name = .ok (m, replies))
    (hapart : replies.areApart F = true) (herror : replies.error.isRegular F = true)
    (hv : Conforms F replies.error v) (r : Value) :
    v.isNull = false ∧ ∃ w, R.buildReply F name r v = .ok ⟨m, .null, v, w⟩ ∧
      (R.acceptResult F name w).outcome = .ok ⟨m, .null, v.settled F, w⟩ ∧
      ∀ id, (R.acceptResponse F name ((Reply.mk m .null v w).message id)).outcome =
        .ok ⟨m, .null, v.settled F, w⟩ := by
  obtain ⟨ref, href, haside⟩ := Replies.areApart_inv hapart
  obtain ⟨w, hw, hkeys⟩ := hv.delivers hF herror
  have hnull : v.isNull = false := by
    rw [href] at hv
    cases hv with
    | record => rfl
  have hdecoded := hw.decoded
  rw [href] at hdecoded hkeys
  have hrefused := decode_refused_of_aside hF haside hw.json hdecoded hkeys
  refine ⟨hnull, w, buildReply_error hm hw.encoded hnull r,
    acceptResult_error hm hrefused hw.decoded, fun id => ?_⟩
  refine acceptResponse_error hm rfl ?_ ?_ hw.decoded
  · unfold Reply.message Reply.failed
    rw [hnull]
    rfl
  · unfold Reply.message Reply.failed
    rw [hnull]
    rfl

end Registry

end EditorProtocol
