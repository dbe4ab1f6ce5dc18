import EditorProtocol.Proofs.Codec.Canon
import EditorProtocol.Proofs.Method.Registry

/-!
Parameters of messages. What is built from wire parameters carries the value they are decoded to,
and its payload is their canonical form; the same comes of the typed parameters and of the payload.
-/

namespace EditorProtocol

variable {F : Family} {R : Registry} {m : Method} {s : Shape} {name : String} {p v w : Value}

/-! ### Conforming parameters -/

namespace Method

theorem paramsShape_eq (hs : m.params = some s) : m.paramsShape = .ok s := by
  unfold paramsShape
  rw [hs]

/-- Typed parameters are only encoded. -/
theorem conform_typed_iff (hs : m.params = some s) (hp : p.isTyped = true) :
    (m.conform F p).outcome = .ok (v, w) ↔ p = v ∧ encode F v s = .ok w := by
  unfold conform
  rw [Traced.outcome_mapError, mapError_ok_iff, paramsShape_eq hs]
  simp only [hp, if_true, Traced.outcome_bind, Traced.outcome_of, Traced.outcome_pure, ok_bind,
    bind_eq_ok]
  constructor
  · rintro ⟨u, hu, h⟩
    cases h
    exact ⟨rfl, hu⟩
  · rintro ⟨rfl, hw⟩
    exact ⟨w, hw, rfl⟩

/-- Parameters in any other form are decoded and then encoded. -/
theorem conform_wire_iff (hs : m.params = some s) (hp : p.isTyped = false) :
    (m.conform F p).outcome = .ok (v, w) ↔
      (decode F false p s).outcome = .ok v ∧ encode F v s = .ok w := by
  unfold conform
  rw [Traced.outcome_mapError, mapError_ok_iff, paramsShape_eq hs]
  simp only [hp, Bool.false_eq_true, if_false, Traced.outcome_bind, Traced.outcome_of,
    Traced.outcome_pure, ok_bind, bind_eq_ok]
  constructor
  · rintro ⟨u, hu, x, hx, h⟩
    cases h
    exact ⟨hu, hx⟩
  · rintro ⟨hv, hw⟩
    exact ⟨v, hv, w, hw, rfl⟩

end Method

/-- Whether the values of a shape are records, which tell that they are typed, or nothing but
null. -/
def Shape.isStructured : Shape → Bool
  | .record _ => true
  | .primitive p => p.kind == .null
  | _ => false

theorem Conforms.isTyped_or_null (hs : s.isStructured = true) (h : Conforms F s v) :
    v.isTyped = true ∨ v = .null := by
  cases s with
  | record ref =>
      cases h with
      | record => exact .inl rfl
  | primitive p => exact .inr (h.null_inv (beq_iff_eq.1 hs))
  | _ => cases hs

/-- Wire parameters that conform give a payload that is decoded to the typed parameters, and both
conform again, to the same. -/
theorem Method.conform_again (hF : F.Regular) (hparams : m.params = some s)
    (hs : s.isRegular F = true) (hstructured : s.isStructured = true) (hp : p.IsJson)
    (h : (m.conform F p).outcome = .ok (v, w)) :
    (decode F false w s).outcome = .ok v ∧ (m.conform F v).outcome = .ok (v, w) ∧
      (m.conform F w).outcome = .ok (v, w) := by
  obtain ⟨hv, hw⟩ := (conform_wire_iff hparams hp.isTyped).1 h
  cases hw.symm.trans (encode_of_decode hF hs hp hv)
  obtain ⟨hjson, _, hdecode⟩ := decode_canon hF hs hp hv
  refine ⟨hdecode, ?_, (conform_wire_iff hparams hjson.isTyped).2 ⟨hdecode, hw⟩⟩
  obtain ⟨hconforms, _, hisNull⟩ := (decode_sound hF hs hp).2 v hv
  -- A record is only encoded. Null is not typed, but it was the wire value to begin with.
  rcases hconforms.isTyped_or_null hstructured with htyped | rfl
  · exact (conform_typed_iff hparams htyped).2 ⟨rfl, hw⟩
  · cases Value.isNull_iff.1 hisNull.symm
    exact h

/-! ### Messages -/

theorem params_of_entries {entries : List (String × Value)}
    (h : Value.lookup entries "params" = none) (payload : Value) :
    ((Value.object (entries ++ paramsEntry payload)).at? "params").getD .null = payload := by
  have hlookup : Value.lookup (entries ++ paramsEntry payload) "params" =
      Value.lookup (paramsEntry payload) "params" := by
    induction entries with
    | nil => rfl
    | cons e rest ih =>
        obtain ⟨key, u⟩ := e
        rw [Value.lookup] at h
        rw [List.cons_append, Value.lookup]
        split at h
        · cases h
        · next hkey =>
          rw [if_neg hkey]
          exact ih h
  show (Value.lookup (entries ++ paramsEntry payload) "params").getD .null = payload
  rw [hlookup, paramsEntry]
  split
  · next hnull => exact (Value.isNull_iff.1 hnull).symm
  · rfl

/-- A receiver finds the payload of a request, which is left out if it is null. -/
theorem Request.params_of_message (e : Request) (id : Value) :
    ((e.message id).at? "params").getD .null = e.payload :=
  params_of_entries rfl e.payload

theorem Notification.params_of_message (e : Notification) :
    (e.message.at? "params").getD .null = e.payload :=
  params_of_entries rfl e.payload

namespace Registry

theorem buildRequest_ok_iff {e : Request} :
    (R.buildRequest F name p).outcome = .ok e ↔
      (R.find? name = some e.method ∧ e.method.isRequest = true) ∧
        (e.method.conform F p).outcome = .ok (e.params, e.payload) := by
  unfold buildRequest
  simp only [Traced.outcome_bind, Traced.outcome_of, Traced.outcome_pure, bind_eq_ok]
  constructor
  · rintro ⟨⟨m, r⟩, hm, ⟨v, w⟩, hconform, h⟩
    cases h
    obtain ⟨hfind, hreplies⟩ := getRequest_ok_iff.1 hm
    refine ⟨⟨hfind, ?_⟩, hconform⟩
    rw [Method.isRequest, hreplies]
    rfl
  · rintro ⟨⟨hfind, hrequest⟩, hconform⟩
    obtain ⟨r, hreplies⟩ := Option.isSome_iff_exists.1 hrequest
    have hget := getRequest_ok_iff.2 ⟨hfind, hreplies⟩
    exact ⟨(e.method, r), hget, (e.params, e.payload), hconform, rfl⟩

theorem buildNotification_ok_iff {e : Notification} :
    (R.buildNotification F name p).outcome = .ok e ↔
      (R.find? name = some e.method ∧ e.method.isRequest = false) ∧
        (e.method.conform F p).outcome = .ok (e.params, e.payload) := by
  unfold buildNotification
  simp only [Traced.outcome_bind, Traced.outcome_of, Traced.outcome_pure, bind_eq_ok]
  constructor
  · rintro ⟨m, hm, ⟨v, w⟩, hconform, h⟩
    cases h
    exact ⟨getNotification_ok_iff.1 hm, hconform⟩
  · rintro ⟨hm, hconform⟩
    exact ⟨e.method, getNotification_ok_iff.2 hm, (e.params, e.payload), hconform, rfl⟩

theorem decodeParams_ok_iff (hm : R.find? name = some m) (hs : m.params = some s) :
    (R.decodeParams F name w).outcome = .ok v ↔ (decode F false w s).outcome = .ok v := by
  unfold decodeParams
  rw [Traced.outcome_bind, Traced.outcome_of, get_ok_iff.2 hm, ok_bind, Traced.outcome_mapError,
    mapError_ok_iff, Traced.outcome_bind, Traced.outcome_of, Method.paramsShape_eq hs, ok_bind]

end Registry

end EditorProtocol
