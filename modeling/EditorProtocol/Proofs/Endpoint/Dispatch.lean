import EditorProtocol.Proofs.Codec.Canon
import EditorProtocol.Proofs.Endpoint.Course
import EditorProtocol.Proofs.Method.Params

/-!
Dispatching a message. Over regular models no message of JSON makes it fail: what is refused is
refused by an error of the contract, whatever a handler of a notification does. A message that is no
valid request, no valid notification of a known method and no response to a request that was sent
leaves nothing behind but entries of the log.
-/

namespace EditorProtocol

variable {F : Family} {R : Registry} {s : Session} {m v : Value} {name : String}

/-! ### Envelopes -/

/-- The record of a model is put together from the fields that were taken. -/
theorem Model.validate_inv {model : Model} (hm : m.isObject = true)
    (h : model.validate F m = .ok v) :
    ∃ slots, fitFields F model.byName m model.fields = .ok ([], slots) ∧
      v = .record model.ref slots := by
  rw [model.validate_eq hm] at h
  obtain ⟨⟨vs, slots⟩, hfields, h⟩ := bind_eq_ok.1 h
  obtain ⟨rfl, rfl, _⟩ := Model.complete_inv h
  exact ⟨slots, hfields, rfl⟩

/-- An object of JSON is taken for a record of a model with plain types, or breaks its rules. -/
theorem Model.validate_answered (hF : F.Regular) (model : Model)
    (plain : ∀ d ∈ model.fields, d.type.isPlain [] = true) (unordered : model.ordered = false)
    (hm : m.IsJson) (hobject : m.isObject = true) : Answered (model.validate F m) := by
  have hfields : ∀ d ∈ model.fields, ∀ key x, d.given? model.byName m = some (key, x) →
      Answered (d.type.fit F [] x) := by
    intro d hd key x hgiven
    obtain ⟨k, hk⟩ := FieldDecl.at?_of_given? hgiven
    exact fit_answered hF.sound d.type (d.type.isSound_of_isPlain true (plain d hd))
      (.wire (hm.at? hk).isWire)
  obtain ⟨vs, slots, htaken⟩ := fitFields_answered hfields
  rw [model.validate_eq hobject, htaken, ok_bind]
  exact model.complete_answered fun _ hordered => by
    rw [unordered] at hordered
    cases hordered

/-- A type of all values takes any value as it is. -/
theorem fit_anything (v : Value) : ∃ fit, TypeExpr.any.optional.fit F [] v = .ok ⟨v, fit⟩ := by
  show ∃ fit, (TypeExpr.union [.any, .null] false).fit F [] v = .ok ⟨v, fit⟩
  rw [TypeExpr.fit]
  split
  · next hnull =>
    have hv : v.isNull = true := (Bool.and_eq_true_iff.1 hnull).2
    cases v with
    | null => exact ⟨_, rfl⟩
    | _ => cases hv
  · have hany : TypeExpr.any.fit F [] v = .ok ⟨v, .loose⟩ := by
      rw [TypeExpr.fit, TypeExpr.bounded_free rfl]
    have hnull : ∀ best, fitFirst F [] best [] [.null] v = fitFirst F [] best [] [] v := by
      intro best
      rw [fitFirst]
      rfl
    show ∃ fit, fitFirst F [] none [] [.any, .null] v = _
    rw [fitFirst, hany]
    show ∃ fit, fitFirst F [] (some ⟨v, .loose⟩) [] [.null] v = _
    rw [hnull, fitFirst]
    exact ⟨_, rfl⟩

/-- The parameters in a notification of JSON are JSON. -/
theorem IncomingNotification.isJson_params (hm : m.IsJson) (hobject : m.isObject = true)
    (h : Catalog.notificationMessage.validate F m = .ok v) :
    (IncomingNotification.ofRecord v).params.IsJson := by
  obtain ⟨slots, hfields, rfl⟩ := Model.validate_inv hobject h
  let d : FieldDecl := .optional "params" .any
  have hd : d ∈ Catalog.notificationMessage.fields := .tail _ (.tail _ (.head _))
  have hloud : ∀ x, d.type.fit F [] x ≠ .error (.violations []) := by
    intro x
    obtain ⟨fit, hfit⟩ := fit_anything (F := F) x
    rw [show d.type = TypeExpr.any.optional from rfl, hfit]
    exact nofun
  obtain ⟨_, hslot⟩ := fitFields_slot (by decide) hfields hd hloud
  have hparams :
      (IncomingNotification.ofRecord (.record Catalog.notificationMessage.ref slots)).params =
        (d.fitted F Catalog.notificationMessage.byName m).value := by
    show ((Value.slot? slots d.name).map (·.value)).getD .null = _
    rw [hslot]
    rfl
  rw [hparams, FieldDecl.fitted]
  split
  · next key x hgiven =>
    obtain ⟨k, hk⟩ := FieldDecl.at?_of_given? hgiven
    obtain ⟨fit, hfit⟩ := fit_anything (F := F) x
    rw [show d.type = TypeExpr.any.optional from rfl, hfit]
    exact hm.at? hk
  · exact .null

/-! ### Refusals -/

/-- A registry whose payloads are all of regular shapes. -/
def Registry.IsRegular (F : Family) (R : Registry) : Prop :=
  ∀ m ∈ R.methods, ∀ t ∈ m.shapes, t.isRegular F = true

/-- Where a payload is decided, it is refused by an error of the contract. -/
theorem EndpointError.isOwn_of_decided {α : Type} {r : Except Fault α} (hr : Decided r)
    (method : Method) {e : Refusal} (h : r.mapError method.refusal = .error e) :
    (EndpointError.refused e).isOwn = true := by
  rcases hr with ⟨a, rfl⟩ | ⟨mismatch, rfl⟩
  · cases h
  · cases h
    rfl

theorem Registry.getRequest_refused {e : Refusal} (h : R.getRequest name = .error e) :
    (EndpointError.refused e).isOwn = true := by
  unfold getRequest get at h
  cases hfind : R.find? name with
  | none =>
      rw [hfind] at h
      cases h
      rfl
  | some d =>
      rw [hfind, ok_bind] at h
      split at h
      · cases h
      · cases h
        rfl

theorem Registry.decodeParams_refused (hF : F.Regular) (hR : R.IsRegular F) (hv : v.IsJson)
    {e : Refusal} (h : (R.decodeParams F name v).outcome = .error e) :
    (EndpointError.refused e).isOwn = true := by
  unfold decodeParams get at h
  cases hfind : R.find? name with
  | none =>
      rw [hfind] at h
      cases h
      rfl
  | some d =>
      rw [hfind, Traced.outcome_bind, Traced.outcome_of, ok_bind, Traced.outcome_mapError,
        Traced.outcome_bind, Traced.outcome_of] at h
      cases hparams : d.params with
      | none =>
          rw [Method.paramsShape, hparams] at h
          cases h
          rfl
      | some t =>
          rw [Method.paramsShape_eq hparams, ok_bind] at h
          have ht : t.isRegular F = true := by
            refine hR d (mem_of_find? hfind) t ?_
            rw [Method.shapes, hparams]
            exact List.mem_cons_self
          exact EndpointError.isOwn_of_decided (decode_sound hF ht hv).decided d h

/-- A refusal by no error of the contract is due to a fault of the payload. -/
theorem Method.foreign_refusal {α : Type} {r : Except Fault α} {segment : Segment} {d : Method}
    {e : Refusal} (h : (underSegment segment r).mapError d.refusal = .error e)
    (hforeign : (EndpointError.refused e).isOwn = false) :
    ∃ f, r = .error f ∧ f.isOwn = false ∧ e = d.refusal f := by
  cases r with
  | ok a => cases h
  | error f =>
      cases f with
      | mismatch mismatch =>
          cases h
          cases hforeign
      | definition error =>
          cases h
          cases hforeign
      | _ =>
          cases h
          exact ⟨_, rfl, rfl, rfl⟩

/-- A part of a response, in the place of the shape that it has to have. -/
def Replies.Asks (replies : Replies) (m part : Value) (shape : Shape) : Prop :=
  (m.at? "result" = some part ∧ shape = replies.result) ∨
    (m.at? "error" = some part ∧ shape = replies.error)

/-- A response is refused by no error of the contract only if decoding its payload ran into a
fault. -/
theorem Registry.acceptResponse_foreign {e : Refusal}
    (h : (R.acceptResponse F name m).outcome = .error e)
    (hforeign : (EndpointError.refused e).isOwn = false) :
    ∃ d replies part shape f, R.find? name = some d ∧ d.replies = some replies ∧
      replies.Asks m part shape ∧ (decode F false part shape).outcome = .error f ∧
        f.isOwn = false ∧ e = d.refusal f := by
  unfold acceptResponse at h
  rw [Traced.outcome_bind, Traced.outcome_of] at h
  cases hget : R.getRequest name with
  | error e' =>
      rw [hget] at h
      cases h
      cases (getRequest_refused hget).symm.trans hforeign
  | ok found =>
      obtain ⟨d, replies⟩ := found
      rw [hget, ok_bind] at h
      obtain ⟨hfind, hreplies⟩ := getRequest_ok_iff.1 hget
      have hfault : ∀ {r : Except Fault Value} {segment : Segment} {f : Value → Reply},
          ((underSegment segment r).mapError d.refusal >>= fun u => .ok (f u)) = .error e →
            ∃ g, r = .error g ∧ g.isOwn = false ∧ e = d.refusal g := by
        intro r segment f h
        cases hresult : (underSegment segment r).mapError d.refusal with
        | ok u =>
            rw [hresult] at h
            cases h
        | error e' =>
            rw [hresult] at h
            cases h
            exact Method.foreign_refusal hresult hforeign
      dsimp only at h
      split at h
      · cases h
        cases hforeign
      · split at h
        · next result hresult _ =>
          rw [Traced.outcome_bind, Traced.outcome_mapError, Traced.outcome_under] at h
          obtain ⟨f, hf, hown, he⟩ := hfault h
          exact ⟨d, replies, result, _, f, hfind, hreplies, .inl ⟨hresult, rfl⟩, hf, hown, he⟩
        · next error _ herror =>
          rw [Traced.outcome_bind, Traced.outcome_mapError, Traced.outcome_under] at h
          obtain ⟨f, hf, hown, he⟩ := hfault h
          exact ⟨d, replies, error, _, f, hfind, hreplies, .inr ⟨herror, rfl⟩, hf, hown, he⟩
        · cases h
          cases hforeign

theorem Registry.acceptResponse_refused (hF : F.Regular) (hR : R.IsRegular F) (hm : m.IsJson)
    {e : Refusal} (h : (R.acceptResponse F name m).outcome = .error e) :
    (EndpointError.refused e).isOwn = true := by
  by_contra hforeign
  obtain ⟨d, replies, part, shape, f, hfind, hreplies, hasks, hfault, hown, _⟩ :=
    acceptResponse_foreign h (Bool.eq_false_iff.2 hforeign)
  have hpart : part.IsJson ∧ shape.isRegular F = true := by
    have hmem : shape ∈ [replies.result, replies.error] → shape.isRegular F = true := by
      intro ht
      refine hR d (mem_of_find? hfind) shape ?_
      rw [Method.shapes, hreplies]
      exact List.mem_append_right _ ht
    rcases hasks with ⟨hat, rfl⟩ | ⟨hat, rfl⟩
    · exact ⟨hm.at? hat, hmem (.head _)⟩
    · exact ⟨hm.at? hat, hmem (.tail _ (.head _))⟩
  have hdecided : Decided (decode F false part shape).outcome :=
    (decode_sound hF hpart.2 hpart.1).decided
  rw [hfault] at hdecided
  rcases hdecided with ⟨v, ⟨⟩⟩ | ⟨mismatch, hmismatch⟩
  cases hmismatch
  cases hown

/-! ### Messages without effect -/

/-- A notification of a method that the registry has as one, with parameters of its shape. -/
structure Value.Notifies (s : Session) (m : Value) (n : IncomingNotification) : Prop where
  method : m.has "method" = .ok true
  noIdentity : m.has "id" = .ok false
  valid : ∃ v, Catalog.notificationMessage.validate s.family m = .ok v ∧ n = .ofRecord v
  known : ∃ d, s.registry.find? n.method = some d ∧ d.isRequest = false
  conforms : ∃ p, (s.registry.decodeParams s.family n.method n.params).outcome = .ok p

/-- A response to a request that waits for one, or that was cancelled. -/
structure Value.RespondsTo (s : Session) (m : Value) (id : RequestId) : Prop where
  noMethod : m.has "method" = .ok false
  identity : ∃ v, m.at? "id" = some v ∧ id.value.equals v = true
  sent : id ∈ s.cancelledOutgoing ∨ ∃ o ∈ s.outstanding, o.id = id

namespace Session

/-- A session that has more entries in its log, and is the same otherwise. -/
def Notes (s t : Session) : Prop := ∃ entries, t = s.note entries

instance : IsPreorder Session Notes where
  refl s := ⟨[], by rw [note, List.append_nil]⟩
  trans := by
    rintro s _ _ ⟨es, rfl⟩ ⟨fs, rfl⟩
    exact ⟨es ++ fs, by rw [note, note, note, List.append_assoc]⟩

theorem notes_note (s : Session) (entries : List LogEntry) : s.Notes (s.note entries) :=
  ⟨entries, rfl⟩

theorem notes_report (s : Session) (severity : Severity) (message : String) :
    s.Notes (s.report severity message) := ⟨_, rfl⟩

/-- An error of the contract is only reported. -/
theorem survive_own {e : EndpointError} (h : e.isOwn = true) :
    (s.survive e).1 = .done ∧ s.Notes (s.survive e).2 := by
  rw [survive, if_pos h]
  exact ⟨rfl, s.notes_report _ _⟩

/-- A record that breaks rules of its model is dropped. -/
theorem reject_answered {model : Model} (h : Answered (model.validate s.family m))
    {e : Rejection} (he : model.validate s.family m = .error e) :
    (s.reject model e).1 = .done ∧ s.Notes (s.reject model e).2 := by
  rw [he] at h
  cases h
  exact ⟨rfl, s.notes_report _ _⟩

end Session

/-- Asking an object for a part that it may have is never strange. -/
theorem Value.has_object (hobject : m.isObject = true) (name : String) :
    m.has name = .ok (m.at? name).isSome := by
  cases m with
  | object es => rfl
  | table es => rfl
  | _ => cases hobject

theorem Value.isObject_of_at? {key : String} (h : m.at? key = some v) : m.isObject = true := by
  cases m with
  | object es => rfl
  | table es => rfl
  | _ => cases h

theorem Value.strangeness_object (hobject : m.isObject = true) : m.strangeness? = none := by
  cases m with
  | object es => rfl
  | table es => rfl
  | _ => cases hobject

/-- A notification that no method is told of leaves entries of the log, and perhaps an error. -/
theorem Action.acceptNotification_ignored {n : IncomingNotification}
    (h : ∀ d, s.registry.find? n.method = some d → d.isRequest = false →
      ∀ p, (s.registry.decodeParams s.family n.method n.params).outcome ≠ .ok p) :
    ∃ t, s.Notes t ∧ ((acceptNotification n).run s = (.ok none, t) ∨
      ∃ e, (s.registry.decodeParams s.family n.method n.params).outcome = .error e ∧
        (acceptNotification n).run s = (.error (.refused e), t)) := by
  have hreport := s.notes_report .debug ("Notification received: " ++ n.method)
  unfold acceptNotification
  rw [run_modify_bind, run_get_bind]
  split
  · split
    · exact ⟨_, trans_of Session.Notes hreport (Session.notes_report _ _ _), .inl rfl⟩
    · exact ⟨_, hreport, .inl rfl⟩
  · next hknown =>
    obtain ⟨d, hd, hnotification⟩ : ∃ d, s.registry.find? n.method = some d ∧
        d.isRequest = false := by
      change ¬ (s.registry.find? n.method).all (·.isRequest) = true at hknown
      cases hd : s.registry.find? n.method with
      | none =>
          rw [hd] at hknown
          exact absurd rfl hknown
      | some d =>
          rw [hd] at hknown
          exact ⟨d, rfl, Bool.eq_false_iff.2 hknown⟩
    obtain ⟨e, he⟩ : ∃ e,
        (s.registry.decodeParams s.family n.method n.params).outcome = .error e := by
      cases houtcome : (s.registry.decodeParams s.family n.method n.params).outcome with
      | ok p => exact absurd houtcome (h d hd hnotification p)
      | error e => exact ⟨e, rfl⟩
    have hdecode : (s.report .debug ("Notification received: " ++ n.method)).registry.decodeParams
        (s.report .debug ("Notification received: " ++ n.method)).family n.method n.params =
        s.registry.decodeParams s.family n.method n.params := rfl
    have hnote := trans_of Session.Notes hreport (Session.notes_note _
      ((s.registry.decodeParams s.family n.method n.params).warnings.map Warning.entry))
    rw [run_bind, run_attempt, run_ofTraced, hdecode, he]
    dsimp only [mapError_error]
    split
    · exact ⟨_, hnote, .inr ⟨e, rfl, rfl⟩⟩
    · exact ⟨_, trans_of Session.Notes hnote (Session.notes_report _ _ _), .inl rfl⟩

/-- A received value that is no float names an identity only if it is equal to it. -/
theorem RequestId.equals_of_ofValue? {id : RequestId} (hv : v.IsJson)
    (hfloat : ∀ x, v ≠ .float x) (h : ofValue? v = some id) : id.value.equals v = true := by
  cases hv with
  | float x => exact absurd rfl (hfloat x)
  | bool b =>
      cases h
      cases b <;> simp [value, Value.equals, Value.same, Value.agrees, Value.text?, Value.numeral?,
        Value.Numeral.compare?]
  | int n =>
      cases h
      exact (Value.same_int n n).2 rfl
  | text s =>
      cases h
      exact (Value.same_text s s).2 rfl
  | null => cases h
  | list => cases h
  | object => cases h

/-- A response to no request leaves entries of the log. -/
theorem Action.handleResponse_ignored (hm : m.IsJson) (hmethod : m.has "method" = .ok false)
    (hid : m.at? "id" = some v) (h : ∀ id, ¬ m.RespondsTo s id) :
    ∃ t, s.Notes t ∧ (handleResponse m).run s = (.ok (), t) := by
  have hnone : ∀ key : Option RequestId, (∀ id, key = some id → id.value.equals v = true) →
      key.any s.cancelledOutgoing.contains = false ∧ key.bind s.outstanding? = none := by
    intro key hkey
    cases key with
    | none => exact ⟨rfl, rfl⟩
    | some id =>
        have hidentity : ∃ v, m.at? "id" = some v ∧ id.value.equals v = true :=
          ⟨v, hid, hkey id rfl⟩
        refine ⟨Bool.eq_false_iff.2 fun hmem => ?_, ?_⟩
        · exact h id ⟨hmethod, hidentity, .inl (List.contains_iff_mem.1 hmem)⟩
        · refine List.find?_eq_none.2 fun o ho heq => ?_
          exact h id ⟨hmethod, hidentity, .inr ⟨o, ho, beq_iff_eq.1 heq⟩⟩
  unfold handleResponse
  rw [run_get_bind, hid, Option.getD_some]
  dsimp only
  split
  · exact ⟨_, s.notes_report _ _, rfl⟩
  · next hfloat =>
    obtain ⟨hcancelled, houtstanding⟩ := hnone (RequestId.ofValue? v) fun id =>
      RequestId.equals_of_ofValue? (hm.at? hid) hfloat
    rw [hcancelled, houtstanding]
    exact ⟨_, s.notes_report _ _, rfl⟩

namespace Session

/-- An object with an identity and without a method is handled as a response. -/
theorem dispatch_identified (hobject : m.isObject = true) (hmethod : m.at? "method" = none)
    (hid : m.at? "id" = some v) :
    s.dispatch m =
      match (Action.handleResponse m).run s with
      | (.ok (), t) => (.done, t)
      | (.error e, t) => t.survive e := by
  unfold dispatch
  rw [Value.has_object hobject, Value.has_object hobject, hmethod, hid]
  dsimp only [Option.isSome]
  cases hstrange : m.strangeness? with
  | none => rfl
  | some reason => cases (Value.strangeness_object hobject).symm.trans hstrange

/-- A message without effect leaves entries of the log only. -/
theorem dispatch_ignored (hF : s.family.Regular) (hR : s.registry.IsRegular s.family)
    (hm : m.IsJson) (hobject : m.isObject = true) (hrequest : ∀ r, ¬ m.Requests s.family r)
    (hnotification : ∀ n, ¬ m.Notifies s n) (hresponse : ∀ id, ¬ m.RespondsTo s id) :
    (s.dispatch m).1 = .done ∧ s.Notes (s.dispatch m).2 := by
  have hmethod := Value.has_object hobject "method"
  have hid := Value.has_object hobject "id"
  unfold dispatch
  rw [hmethod, hid]
  cases hasMethod : (m.at? "method").isSome with
  | true =>
      rw [hasMethod] at hmethod
      cases hasId : (m.at? "id").isSome with
      | true =>
          rw [hasId] at hid
          dsimp only
          have hanswered := Model.validate_answered hF Catalog.requestMessage
            (by decide) rfl hm hobject
          split
          · next v hv => exact absurd ⟨hmethod, hid, v, hv, rfl⟩ (hrequest _)
          · next e he => exact reject_answered hanswered he
      | false =>
          rw [hasId] at hid
          dsimp only
          have hanswered := Model.validate_answered hF Catalog.notificationMessage
            (by decide) rfl hm hobject
          split
          · next v hv =>
            have hjson := IncomingNotification.isJson_params hm hobject hv
            obtain ⟨t, ht, hrun⟩ := Action.acceptNotification_ignored (s := s)
              (n := .ofRecord v) fun d hd hkind p hp =>
                hnotification _ ⟨hmethod, hid, ⟨v, hv, rfl⟩, ⟨d, hd, hkind⟩, p, hp⟩
            rw [dispatchNotification]
            rcases hrun with hrun | ⟨e, he, hrun⟩
            · rw [hrun]
              exact ⟨rfl, ht⟩
            · rw [hrun]
              have hown := Registry.decodeParams_refused hF hR hjson he
              exact ⟨(t.survive_own hown).1, trans_of Notes ht (t.survive_own hown).2⟩
          · next e he => exact reject_answered hanswered he
  | false =>
      rw [hasMethod] at hmethod
      cases hasId : (m.at? "id").isSome with
      | true =>
          dsimp only
          rw [Value.strangeness_object hobject]
          dsimp only
          obtain ⟨v, hv⟩ := Option.isSome_iff_exists.1 hasId
          obtain ⟨t, ht, hrun⟩ := Action.handleResponse_ignored hm hmethod hv hresponse
          rw [hrun]
          exact ⟨rfl, ht⟩
      | false => exact ⟨rfl, s.notes_report _ _⟩

end Session

/-! ### Errors -/

/-- A notification is not accepted only if its parameters are refused. -/
theorem Action.acceptNotification_refused {n : IncomingNotification} {e : EndpointError}
    (h : ((acceptNotification n).run s).1 = .error e) :
    ∃ r, (s.registry.decodeParams s.family n.method n.params).outcome = .error r ∧
      e = .refused r := by
  let P (e : EndpointError) : Prop :=
    ∃ r, (s.registry.decodeParams s.family n.method n.params).outcome = .error r ∧ e = .refused r
  unfold acceptNotification at h
  rw [run_modify_bind, run_get_bind] at h
  refine (?_ : FailsWith P _) _ e h
  split
  · split
    · exact .bind (.modify _) fun _ => .pure none
    · exact .pure none
  · refine .attempt fun t => ?_
    have hreported : ∀ severity text, (s.report severity text).family = s.family ∧
        (s.report severity text).registry = s.registry := fun _ _ => ⟨rfl, rfl⟩
    rw [run_ofTraced]
    dsimp only [Traced.mapError]
    rw [(hreported _ _).1, (hreported _ _).2]
    cases houtcome : (s.registry.decodeParams s.family n.method n.params).outcome with
    | error r =>
        dsimp only [mapError_error]
        split
        · exact .bind (.throw ⟨r, houtcome, rfl⟩) fun _ => .bind (.modify _) fun _ => .pure none
        · exact .bind (.modify _) fun _ => .pure none
    | ok p =>
        dsimp only [mapError_ok]
        split
        · exact .bind (.modify _) fun _ => .pure (some p)
        split
        · exact .bind (.modify _) fun _ => .pure (some p)
        · exact .pure (some p)

/-- A response is not handled only if the registry refuses it as a reply to a request that waits. -/
theorem Action.handleResponse_refused {e : EndpointError}
    (h : ((handleResponse m).run s).1 = .error e) :
    ∃ o ∈ s.outstanding, ∃ r,
      (s.registry.acceptResponse s.family o.pending.request.method.name m).outcome = .error r ∧
        e = .refused r := by
  let P (e : EndpointError) : Prop := ∃ o ∈ s.outstanding, ∃ r,
    (s.registry.acceptResponse s.family o.pending.request.method.name m).outcome = .error r ∧
      e = .refused r
  unfold handleResponse at h
  rw [run_get_bind] at h
  refine (?_ : FailsWith P _) _ e h
  dsimp only
  -- It is all the same which identity the response names.
  split
  all_goals
    split
    · exact .bind (.modify _) fun _ => .modify _
    split
    · exact .modify _
    · next o houtstanding =>
      obtain ⟨id, _, hid⟩ := Option.bind_eq_some_iff.1 houtstanding
      have ho : o ∈ s.outstanding := List.mem_of_find?_eq_some hid
      split
      · exact .modify _
      refine .attempt fun t => ?_
      rw [run_ofTraced]
      split
      · next e he =>
        obtain ⟨r, hr, rfl⟩ := mapError_error_iff.1 he
        split
        · exact .bind (.throw ⟨o, ho, r, hr, rfl⟩) fun _ => .bind (.modify _) fun _ => .modify _
        · exact .bind (.modify _) fun _ => .modify _
      · split
        · exact .bind (.modify _) fun _ => .modify _
        · exact .bind (.modify _) fun _ => .modify _

namespace Session

/-- Whatever a handler of a notification does, the loop survives it. -/
theorem advanceHandler_survives (s : Session) (b : Behaviour) (e : EndpointError) :
    (s.advanceHandler b).1 ≠ .failed e := by
  unfold advanceHandler
  split <;> exact nofun

/-- No message of JSON makes the loop fail. -/
theorem dispatch_survives (hF : s.family.Regular) (hR : s.registry.IsRegular s.family)
    (hm : m.IsJson) (hobject : m.isObject = true) (e : EndpointError) :
    (s.dispatch m).1 ≠ .failed e := by
  have hdone : ∀ {d : Dispatched}, d = .done → d ≠ .failed e := by
    rintro _ rfl
    exact nofun
  unfold dispatch
  rw [Value.has_object hobject, Value.has_object hobject]
  cases (m.at? "method").isSome with
  | true =>
      cases (m.at? "id").isSome with
      | true =>
          dsimp only
          have hanswered := Model.validate_answered hF Catalog.requestMessage
            (by decide) rfl hm hobject
          split
          · exact nofun
          · next e' he => exact hdone (reject_answered hanswered he).1
      | false =>
          dsimp only
          have hanswered := Model.validate_answered hF Catalog.notificationMessage
            (by decide) rfl hm hobject
          split
          · next v hv =>
            unfold dispatchNotification
            split
            · next e' t hrun =>
              obtain ⟨r, hr, rfl⟩ :=
                Action.acceptNotification_refused (congrArg Prod.fst hrun)
              have hjson := IncomingNotification.isJson_params hm hobject hv
              exact hdone (t.survive_own (Registry.decodeParams_refused hF hR hjson hr)).1
            · exact nofun
            · split
              · exact nofun
              · exact advanceHandler_survives _ _ e
          · next e' he => exact hdone (reject_answered hanswered he).1
  | false =>
      cases (m.at? "id").isSome with
      | true =>
          dsimp only
          rw [Value.strangeness_object hobject]
          dsimp only
          split
          · exact nofun
          · next e' t hrun =>
            obtain ⟨_, _, r, hr, rfl⟩ := Action.handleResponse_refused (congrArg Prod.fst hrun)
            exact hdone (t.survive_own (Registry.acceptResponse_refused hF hR hm hr)).1
      | false => exact nofun

end Session

end EditorProtocol
