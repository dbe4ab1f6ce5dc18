import EditorProtocol.Proofs.Catalog.RoundTrip
import EditorProtocol.Proofs.Method.Params
import EditorProtocol.Proofs.Method.Replies

/-!
Messages of the catalogs. The parameters of a message that was built are found again by its
receiver, and building it once more, from them or from its payload, gives the same message. What was
built from a result is accepted as the same result, and what was built from an error as the same
error, whether the whole response arrives or only its payload.
-/

namespace EditorProtocol.Catalog

variable {R : Registry} {m : Method} {replies : Replies} {p : Value}

/-! ### Parameters -/

theorem params_structured :
    ∀ R ∈ registries, ∀ m ∈ R.methods, m.params.any Shape.isStructured = true := by
  decide +kernel

theorem exists_params (hR : R ∈ registries) (hm : m ∈ R.methods) :
    ∃ s, m.params = some s ∧ s.isRegular family = true ∧ s.isStructured = true := by
  obtain ⟨s, hs, hstructured⟩ := (Option.any_eq_true _ _).1 (params_structured R hR m hm)
  refine ⟨s, hs, shapes_regular R hR m hm s ?_, hstructured⟩
  rw [Method.shapes, hs]
  exact List.mem_cons_self

/-- Building a message from wire parameters succeeds with what its receiver reads and what typed
parameters or the payload would have given. -/
theorem message_round_trip (hR : R ∈ registries) (hp : p.IsJson) (name : String) :
    (∀ e, (R.buildRequest family name p).outcome = .ok e →
      (∀ id, (R.decodeParams family name
        (((e.message id).at? "params").getD .null)).outcome = .ok e.params) ∧
      (R.buildRequest family name e.params).outcome = .ok e ∧
      (R.buildRequest family name e.payload).outcome = .ok e) ∧
    ∀ e, (R.buildNotification family name p).outcome = .ok e →
      (R.decodeParams family name ((e.message.at? "params").getD .null)).outcome = .ok e.params ∧
      (R.buildNotification family name e.params).outcome = .ok e ∧
      (R.buildNotification family name e.payload).outcome = .ok e := by
  constructor
  · intro e he
    obtain ⟨⟨hfind, hrequest⟩, hconform⟩ := Registry.buildRequest_ok_iff.1 he
    obtain ⟨s, hs, hregular, hstructured⟩ := exists_params hR (Registry.mem_of_find? hfind)
    obtain ⟨hdecode, htyped, hwire⟩ :=
      Method.conform_again family_regular hs hregular hstructured hp hconform
    refine ⟨fun id => ?_, ?_, ?_⟩
    · rw [Request.params_of_message, Registry.decodeParams_ok_iff hfind hs]
      exact hdecode
    · exact Registry.buildRequest_ok_iff.2 ⟨⟨hfind, hrequest⟩, htyped⟩
    · exact Registry.buildRequest_ok_iff.2 ⟨⟨hfind, hrequest⟩, hwire⟩
  · intro e he
    obtain ⟨⟨hfind, hrequest⟩, hconform⟩ := Registry.buildNotification_ok_iff.1 he
    obtain ⟨s, hs, hregular, hstructured⟩ := exists_params hR (Registry.mem_of_find? hfind)
    obtain ⟨hdecode, htyped, hwire⟩ :=
      Method.conform_again family_regular hs hregular hstructured hp hconform
    refine ⟨?_, ?_, ?_⟩
    · rw [Notification.params_of_message, Registry.decodeParams_ok_iff hfind hs]
      exact hdecode
    · exact Registry.buildNotification_ok_iff.2 ⟨⟨hfind, hrequest⟩, htyped⟩
    · exact Registry.buildNotification_ok_iff.2 ⟨⟨hfind, hrequest⟩, hwire⟩

theorem message_round_trip_cancel : ∃ e,
    (legacy.buildNotification family cancelName
      (.object [("id", .int 5), ("more", .null)])).outcome = .ok e ∧
    (legacy.decodeParams family cancelName
      ((e.message.at? "params").getD .null)).outcome = .ok e.params := by
  have hmore : ∀ e ∈ [("more", Value.null)], e.2.IsJson := by
    rintro e (_ | ⟨_, ⟨⟩⟩)
    exact .null
  have hjson := isJson_cancelParams (.number 5) hmore
  have hdecode := decode_cancelParams (.number 5) hmore
  have hbuild : (legacy.buildNotification family cancelName
      (.object [("id", .int 5), ("more", .null)])).outcome =
        .ok ⟨notification cancelName cancelParams.shape,
          .record cancelParams.ref [⟨"id", .int 5, .given⟩],
          canon family (.object [("id", .int 5), ("more", .null)]) cancelParams.shape⟩ := by
    refine Registry.buildNotification_ok_iff.2 ⟨⟨rfl, rfl⟩, ?_⟩
    refine (Method.conform_wire_iff rfl hjson.isTyped).2 ⟨hdecode, ?_⟩
    exact encode_of_decode family_regular rfl hjson hdecode
  exact ⟨_, hbuild, ((message_round_trip (R := legacy) (.tail _ (.head _)) hjson
    cancelName).2 _ hbuild).1⟩

/-! ### Replies -/

theorem names_nodup : ∀ R ∈ registries, (R.methods.map (·.name)).Nodup := by
  decide +kernel

/-- No result of a catalog can be taken for an error, and no error for a result. -/
theorem replies_apart :
    ∀ R ∈ registries, ∀ m ∈ R.methods, m.replies.all (Replies.areApart family) = true := by
  decide +kernel

/-- A request of a catalog is found by its name. -/
theorem getRequest_name (hR : R ∈ registries) (hm : m ∈ R.methods)
    (hreplies : m.replies = some replies) : R.getRequest m.name = .ok (m, replies) :=
  Registry.getRequest_ok_iff.2 ⟨Registry.find?_of_mem (names_nodup R hR) hm, hreplies⟩

theorem replies_regular (hR : R ∈ registries) (hm : m ∈ R.methods)
    (hreplies : m.replies = some replies) :
    replies.areApart family = true ∧ replies.result.isRegular family = true ∧
      replies.error.isRegular family = true := by
  have hapart := replies_apart R hR m hm
  rw [hreplies] at hapart
  have hshapes := shapes_regular R hR m hm
  rw [Method.shapes, hreplies] at hshapes
  exact ⟨hapart, hshapes _ (List.mem_append_right _ (.head _)),
    hshapes _ (List.mem_append_right _ (.tail _ (.head _)))⟩

/-- A reply that is built from a conforming result or error is accepted and carries the same. -/
theorem reply_round_trip (hR : R ∈ registries) (hm : m ∈ R.methods)
    (hreplies : m.replies = some replies) (id : Value) :
    (∀ r, Conforms family replies.result r →
      ∃ reply, R.buildReply family m.name r .null = .ok reply ∧
        (∃ a, (R.acceptResponse family m.name (reply.message id)).outcome = .ok a ∧
          a.failed = false ∧ a.result.SameFields family r) ∧
        ∃ a, (R.acceptResult family m.name reply.payload).outcome = .ok a ∧
          a.failed = false ∧ a.result.SameFields family r) ∧
    ∀ e r, Conforms family replies.error e →
      ∃ reply, R.buildReply family m.name r e = .ok reply ∧
        (∃ a, (R.acceptResponse family m.name (reply.message id)).outcome = .ok a ∧
          a.failed = true ∧ a.error.SameFields family e) ∧
        ∃ a, (R.acceptResult family m.name reply.payload).outcome = .ok a ∧
          a.failed = true ∧ a.error.SameFields family e := by
  have hrequest := getRequest_name hR hm hreplies
  obtain ⟨hapart, hresult, herror⟩ := replies_regular hR hm hreplies
  constructor
  · intro r hr
    have hsame := hr.sameFields_settled family_regular hresult
    obtain ⟨w, hbuild, haccept, hresponse⟩ :=
      Registry.reply_result family_regular hrequest hapart hresult hr
    exact ⟨_, hbuild, ⟨_, hresponse id, rfl, hsame⟩, _, haccept, rfl, hsame⟩
  · intro e r he
    have hsame := he.sameFields_settled family_regular herror
    obtain ⟨hnull, w, hbuild, haccept, hresponse⟩ :=
      Registry.reply_error family_regular hrequest hapart herror he r
    have hfailed : ∀ x, (Reply.mk m .null (e.settled family) x).failed = true := by
      intro x
      rw [Reply.failed, Value.isNull_settled, hnull]
      rfl
    exact ⟨_, hbuild, ⟨_, hresponse id, hfailed w, hsame⟩, _, haccept, hfailed w, hsame⟩

theorem responseError_conforms (code : Int) (text : String) :
    Conforms family responseError.shape (.record responseError.ref
      [⟨"code", .int code, .given⟩, ⟨"message", .text text, .given⟩,
        ⟨"data", .null, .filled⟩]) := by
  have hfind : family.find? responseError.ref = some responseError := rfl
  have hcode : Conforms family (.ofKind .integer) (.int code) := by
    refine .integer rfl code (fun k h => ?_) fun k h => ?_
    · cases h
    · cases h
  refine .of_forall₂ (family_regular.model hfind).1 hfind ?_ fun h => ?_
  · refine .cons ⟨rfl, fun h => ?_, fun _ => hcode⟩
      (.cons ⟨rfl, fun h => ?_, fun _ => .text rfl text⟩
        (.cons ⟨rfl, rfl, fun h => absurd rfl h⟩ .nil))
    · cases h
    · cases h
  · cases h

theorem reply_round_trip_shutdown :
    (∃ reply, legacy.buildReply family "shutdown" .null .null = .ok reply ∧
      ∃ a, (legacy.acceptResult family "shutdown" reply.payload).outcome = .ok a ∧
        a.failed = false) ∧
    ∃ reply, legacy.buildReply family "shutdown" .null (.record responseError.ref
        [⟨"code", .int 1, .given⟩, ⟨"message", .text "no", .given⟩,
          ⟨"data", .null, .filled⟩]) = .ok reply ∧
      ∃ a, (legacy.acceptResult family "shutdown" reply.payload).outcome = .ok a ∧
        a.failed = true := by
  have h := reply_round_trip (R := legacy) (m := request "shutdown" .null .null)
    (.tail _ (.head _)) (.tail _ (.head _)) rfl (.int 1)
  obtain ⟨reply, hbuild, _, a, haccept, hfailed, _⟩ := h.1 .null (.null rfl)
  obtain ⟨reply', hbuild', _, a', haccept', hfailed', _⟩ :=
    h.2 _ .null (responseError_conforms 1 "no")
  exact ⟨⟨reply, hbuild, a, haccept, hfailed⟩, reply', hbuild', a', haccept', hfailed'⟩

end EditorProtocol.Catalog
