import Mathlib.Algebra.Group.Int.Defs
import EditorProtocol.Proofs.Codec.Writing
import EditorProtocol.Proofs.Method.Params
import EditorProtocol.Proofs.Method.Replies

/-!
Messages that can be read. Whatever values a request, a notification or a reply is built from, its
payload is never refused on the other side: it is read, or it holds an integer too large for a float
that it is met with.
-/

namespace EditorProtocol

variable {F : Family} {R : Registry} {m : Method} {s : Shape} {name : String} {p v w : Value}

/-- A value is read, or an integer in it overflows a float of its shape. -/
def ReadUnlessLarge {α : Type} (F : Family) (w : Value) (s : Shape) (r : Except Refusal α) : Prop :=
  (∃ a, r = .ok a) ∨ (Overflows F w s ∧ r = .error (.fault .overflow))

/-- The payload of parameters is written for them in the shape of the method. -/
theorem Method.encode_of_conform (h : (m.conform F p).outcome = .ok (v, w)) :
    ∃ s, m.params = some s ∧ encode F v s = .ok w := by
  cases hs : m.params with
  | none =>
      unfold conform paramsShape at h
      rw [hs] at h
      cases h
  | some s =>
      refine ⟨s, rfl, ?_⟩
      cases hp : p.isTyped with
      | true => exact ((conform_typed_iff hs hp).1 h).2
      | false => exact ((conform_wire_iff hs hp).1 h).2

/-- What is written for a value is read by all that only pass on whether it is decoded. -/
theorem ReadUnlessLarge.of_encode {α : Type} (hF : F.Sound) (hnulls : F.LacksNull)
    (hw : encode F v s = .ok w) (pass : Except Fault Value → Except Refusal α)
    (hvalue : ∀ u, ∃ a, pass (.ok u) = .ok a)
    (hlarge : pass (.error .overflow) = .error (.fault .overflow)) :
    ReadUnlessLarge F w s (pass (decode F false w s).outcome) := by
  rcases decode_written hF hnulls hw with ⟨u, hu⟩ | ⟨hoverflows, hfault⟩
  · rw [hu]
    exact .inl (hvalue u)
  · rw [hfault]
    exact .inr ⟨hoverflows, hlarge⟩

namespace Registry

/-- Written parameters are read by the method that they were written for. -/
theorem decodeParams_written (hF : F.Sound) (hnulls : F.LacksNull) (hm : R.find? name = some m)
    (hs : m.params = some s) (hw : encode F v s = .ok w) :
    ReadUnlessLarge F w s (R.decodeParams F name w).outcome := by
  unfold decodeParams
  rw [Traced.outcome_bind, Traced.outcome_of, get_ok_iff.2 hm, ok_bind, Traced.outcome_mapError,
    Traced.outcome_bind, Traced.outcome_of, Method.paramsShape_eq hs, ok_bind]
  exact .of_encode hF hnulls hw (·.mapError m.refusal) (fun u => ⟨u, rfl⟩) rfl

/-- A reply that could be built is accepted in a response, whichever request it is for. -/
theorem acceptResponse_written (hF : F.Sound) (hnulls : F.LacksNull) {reply : Reply}
    {result error : Value} (h : R.buildReply F name result error = .ok reply) :
    ∃ replies, reply.method.replies = some replies ∧ ∀ id,
      ReadUnlessLarge F reply.payload (if reply.failed then replies.error else replies.result)
        (R.acceptResponse F name (reply.message id)).outcome := by
  unfold buildReply at h
  obtain ⟨⟨m, replies⟩, hm, h⟩ := bind_eq_ok.1 h
  dsimp only at h
  split at h
  · obtain ⟨w, hencode, h⟩ := bind_eq_ok.1 h
    cases h
    refine ⟨replies, (getRequest_ok_iff.1 hm).2, fun id => ?_⟩
    rw [acceptResponse_result_eq hm rfl rfl rfl]
    exact .of_encode hF hnulls (mapError_ok_iff.1 hencode)
      (fun o => (underSegment (.key "result") o).mapError m.refusal >>= fun u =>
        .ok (Reply.mk m u .null w)) (fun u => ⟨_, rfl⟩) rfl
  · next hnull =>
    obtain ⟨w, hencode, h⟩ := bind_eq_ok.1 h
    cases h
    have hfailed : (Reply.mk m .null error w).failed = true := by
      unfold Reply.failed
      rw [Bool.eq_false_iff.2 hnull]
      rfl
    refine ⟨replies, (getRequest_ok_iff.1 hm).2, fun id => ?_⟩
    have hresult : ((Reply.mk m .null error w).message id).at? "result" = none := by
      unfold Reply.message
      rw [hfailed]
      rfl
    have herror : ((Reply.mk m .null error w).message id).at? "error" = some w := by
      unfold Reply.message
      rw [hfailed]
      rfl
    rw [acceptResponse_error_eq hm rfl hresult herror, if_pos hfailed]
    exact .of_encode hF hnulls (mapError_ok_iff.1 hencode)
      (fun o => (underSegment (.key "error") o).mapError m.refusal >>= fun u =>
        .ok (Reply.mk m .null u w)) (fun u => ⟨_, rfl⟩) rfl

end Registry

/-- Whatever can be written for a value, made in any way, can be read in the same shape; and what a
request, a notification or a reply could be built with is read by the side that gets it. Only an
integer that no float is near to, where it is met with a float, keeps a written value from being
read. -/
theorem written_is_read (hF : F.Sound) (hnulls : F.LacksNull) :
    (∀ (s : Shape) (v w : Value), encode F v s = .ok w →
      (∃ u, (decode F false w s).outcome = .ok u) ∨
        (Overflows F w s ∧ (decode F false w s).outcome = .error .overflow)) ∧
    ∀ (R : Registry) (name : String),
      (∀ p e, (R.buildRequest F name p).outcome = .ok e → ∃ s, e.method.params = some s ∧ ∀ id,
        ReadUnlessLarge F e.payload s
          (R.decodeParams F name (((e.message id).at? "params").getD .null)).outcome) ∧
      (∀ p e, (R.buildNotification F name p).outcome = .ok e → ∃ s, e.method.params = some s ∧
        ReadUnlessLarge F e.payload s
          (R.decodeParams F name ((e.message.at? "params").getD .null)).outcome) ∧
      ∀ result error reply, R.buildReply F name result error = .ok reply →
        ∃ replies, reply.method.replies = some replies ∧ ∀ id,
          ReadUnlessLarge F reply.payload (if reply.failed then replies.error else replies.result)
            (R.acceptResponse F name (reply.message id)).outcome := by
  refine ⟨fun s v w => decode_written hF hnulls, fun R name => ⟨?request, ?notification, ?reply⟩⟩
  case request =>
    intro p e h
    obtain ⟨⟨hm, _⟩, hconform⟩ := Registry.buildRequest_ok_iff.1 h
    obtain ⟨s, hs, hencode⟩ := Method.encode_of_conform hconform
    refine ⟨s, hs, fun id => ?_⟩
    rw [e.params_of_message]
    exact Registry.decodeParams_written hF hnulls hm hs hencode
  case notification =>
    intro p e h
    obtain ⟨⟨hm, _⟩, hconform⟩ := Registry.buildNotification_ok_iff.1 h
    obtain ⟨s, hs, hencode⟩ := Method.encode_of_conform hconform
    refine ⟨s, hs, ?_⟩
    rw [e.params_of_message]
    exact Registry.decodeParams_written hF hnulls hm hs hencode
  case reply =>
    intro result error reply h
    exact Registry.acceptResponse_written hF hnulls h

section Readings

/-- How full something is, in a number. -/
def reading : Model := .named "Reading" [.required "level" (.unionOf [.integer, .float])]

/-- How full something is, in whatever it shows. -/
def gauge : Model := .named "Gauge" [.required "level" .any]

def readings : Family := ⟨[reading, gauge]⟩

/-- A gauge is written where a reading is asked for: its level is one of a reading. -/
theorem encode_gauge :
    encode readings (.record gauge.ref [⟨"level", .int 7, .given⟩]) (.record reading.ref) =
      .ok (.object [("level", .int 7)]) := by
  have hfields : reading.fields =
      [⟨"level", "level", .union [.integer, .float] false, none⟩] := rfl
  have hentries : encodeFields readings reading.ref gauge.ref [⟨"level", .int 7, .given⟩]
      (.record gauge.ref [⟨"level", .int 7, .given⟩]) (reading.fields.map FieldDecl.asField) =
        .ok [("level", .int 7)] := by
    have hfields : reading.fields.map FieldDecl.asField =
        [⟨"level", "level", .union [.ofKind .integer, .ofKind .float], false⟩] := rfl
    rw [hfields]
    simp only [encodeFields, encode, encodeFirst, Shape.ofKind]
    rfl
  have hvalid : reading.validate readings (.object [("level", .int 7)]) =
      .ok (.record reading.ref [⟨"level", .int 7, .given⟩]) := by
    rw [Model.validate_eq reading rfl, hfields]
    simp only [fitFields, FieldDecl.given?, Value.at?, TypeExpr.fit, fitFirst]
    rfl
  rw [encode_record (m := reading) (by decide +kernel) rfl, hentries, ok_bind]
  unfold Model.seal
  rw [hvalid]

/-- A device that tells readings. -/
def device : Registry := ⟨"device", "1", [⟨"device/told", some (.record reading.ref), none⟩], false⟩

/-- A gauge that is told as a reading. -/
def told : Notification where
  method := ⟨"device/told", some (.record reading.ref), none⟩
  params := .record gauge.ref [⟨"level", .int 7, .given⟩]
  payload := .object [("level", .int 7)]

/-- What the notification is built with can be read as a reading. -/
theorem written_is_read_told :
    readings.Sound ∧ readings.LacksNull ∧
      (device.buildNotification readings "device/told" told.params).outcome = .ok told ∧
      ReadUnlessLarge readings told.payload (.record reading.ref)
        (device.decodeParams readings "device/told"
          ((told.message.at? "params").getD .null)).outcome := by
  have hsound : readings.Sound := by decide +kernel
  have hnulls : readings.LacksNull := by decide +kernel
  have hbuilt : (device.buildNotification readings "device/told" told.params).outcome =
      .ok told :=
    Registry.buildNotification_ok_iff.2
      ⟨⟨rfl, rfl⟩, (Method.conform_typed_iff rfl rfl).2 ⟨rfl, encode_gauge⟩⟩
  obtain ⟨s, hs, hread⟩ := ((written_is_read hsound hnulls).2 device "device/told").2.1 _ _ hbuilt
  cases hs
  exact ⟨hsound, hnulls, hbuilt, hread⟩

end Readings

/-- An integer that no float is near to is written where an integer is one of two choices, and not
read there. -/
theorem large_integer_unread :
    (TypeExpr.union [.integer, .float] false).shape =
      .ok (.union [.ofKind .integer, .ofKind .float]) ∧
    encode ⟨[]⟩ (.int (10 ^ 400)) (.union [.ofKind .integer, .ofKind .float]) =
      .ok (.int (10 ^ 400)) ∧
    (decode ⟨[]⟩ false (.int (10 ^ 400)) (.union [.ofKind .integer, .ofKind .float])).outcome =
      .error .overflow := by
  have large : Double.ofInt? (10 ^ 400) = none := by decide +kernel
  generalize (10 ^ 400 : Int) = n at large ⊢
  refine ⟨?shape, ?encoded, ?decoded⟩
  case shape => rfl
  case encoded =>
    simp only [encode, encodeFirst, Shape.ofKind]
    rfl
  case decoded =>
    simp [decode, tryAlternatives, Shape.ofKind, Primitive.accept, Value.integer?, Traced.attempt,
      large]
    cbv

end EditorProtocol
