import EditorProtocol.Proofs.Catalog.Messages
import EditorProtocol.Proofs.Codec.Writing

/-!
The errors that requests are answered with. An error record with further data is written for every
request but one; where a request has an error of its own, data keeps the record from being written.
-/

namespace EditorProtocol

variable {F : Family} {R : Registry} {m n : Model} {ref own : ModelRef} {slots : List (Slot Value)}
  {v w : Value}

theorem encodeFields_of_own {first : ModelRef} {whole whole' : Value} {fields : List Field}
    {entries : List (String × Value)} (hn : F.find? own = some n)
    (hdeclares : ∀ f ∈ fields, n.declares f.name = true)
    (h : encodeFields F ref first slots whole fields = .ok entries) :
    encodeFields F ref own slots whole' fields = .ok entries := by
  induction fields generalizing entries with
  | nil =>
      rw [encodeFields] at h ⊢
      exact h
  | cons f rest ih =>
      have hrest := fun {others} => @ih others fun g hg => hdeclares g (.tail f hg)
      have hf : (!(F.find? own).any (·.declares f.name)) = false := by
        rw [hn, Option.any_some, hdeclares f (.head _)]
        rfl
      rw [encodeFields] at h ⊢
      rw [hf, if_neg Bool.false_ne_true]
      split at h
      · next hleft =>
        rw [if_pos hleft]
        exact hrest h
      · next hleft =>
        rw [if_neg hleft]
        split at h
        · cases h
        split at h
        · cases h
        · split at h
          · next hnull =>
            rw [if_pos hnull]
            split at h
            · next hnullable =>
              obtain ⟨others, hothers, h⟩ := bind_eq_ok.1 h
              rw [if_pos hnullable, hrest hothers]
              exact h
            · next hnullable =>
              rw [if_neg hnullable]
              split at h
              · next hoptional =>
                rw [if_pos hoptional]
                exact hrest h
              · cases h
          · next hnull =>
            rw [if_neg hnull]
            obtain ⟨x, hx, h⟩ := bind_eq_ok.1 h
            obtain ⟨others, hothers, h⟩ := bind_eq_ok.1 h
            rw [hx, ok_bind, hrest hothers]
            exact h

/-- A record stands in for one of another model, if its own model declares the same fields. -/
theorem encode_record_of_own (hF : F.Regular) (hm : F.find? ref = some m)
    (hn : F.find? own = some n) (hdeclares : ∀ d ∈ m.fields, n.declares d.name = true)
    (h : encode F (.record ref slots) (.record ref) = .ok w) :
    encode F (.record own slots) (.record ref) = .ok w := by
  rw [encode_record (hF.model hm).1.keyed hm] at h ⊢
  obtain ⟨entries, hentries, h⟩ := bind_eq_ok.1 h
  have hentries' : encodeFields F ref own slots (.record own slots)
      (m.fields.map FieldDecl.asField) = .ok entries := by
    refine encodeFields_of_own hn (fun f hf => ?_) hentries
    obtain ⟨d, hd, rfl⟩ := List.mem_map.1 hf
    rw [((hF.model hm).1.fields d hd).name_eq]
    exact hdeclares d hd
  rw [hentries', ok_bind]
  -- The rules of the model are checked on what is written, which is the same.
  unfold Model.seal at h ⊢
  split at h
  · exact h
  · cases h
  · cases h

/-- A model is filled if each of its fields has a value of its shape, or has none where it may. -/
theorem Model.filled_of_fields {given : FieldDecl → Option Value}
    (h : ∀ d ∈ m.fields, (∃ v, given d = some v ∧ Conforms F d.asField.shape v) ∨
      given d = none ∧ d.asField.optional = true) : m.Filled F given := by
  refine ⟨fun d hd v hv => ?_, fun d hd hnone => ?_⟩
  · rcases h d hd with ⟨u, hu, hconforms⟩ | ⟨hnone, _⟩
    · cases hu.symm.trans hv
      exact hconforms
    · cases hnone.symm.trans hv
  · rcases h d hd with ⟨u, hu, _⟩ | ⟨_, hoptional⟩
    · cases hu.symm.trans hnone
    · exact hoptional

/-- Values that the fields of a model without an order take make a record of it. -/
theorem Model.make_of_fitFields (hm : m.Regular F) {values : List (String × Value)}
    (h : fitFields F true (.object values) m.fields = .ok ([], slots))
    (hordered : m.ordered = false) : m.make F values = .ok (.record m.ref slots) := by
  unfold make
  rw [m.validate_eq rfl, hm.byName, h, ok_bind]
  refine complete_ok fun h => ?_
  rw [hordered] at h
  cases h

/-- What is an integer is taken for it, a member of an enumeration too. -/
theorem TypeExpr.fit_of_integer? {n : Int} (h : v.integer? = some n) :
    ∃ fit, TypeExpr.integer.fit F [] v = .ok ⟨.int n, fit⟩ := by
  rw [TypeExpr.fit]
  unfold Value.fitInteger
  split
  · cases h
    exact ⟨.exact, rfl⟩
  · next hn =>
    cases h.symm.trans hn
    exact ⟨.close, rfl⟩
  · next hnone => cases h.symm.trans hnone

/-- What is a text is taken for it. -/
theorem TypeExpr.fit_of_text? {s : String} (h : v.text? = some s) :
    ∃ fit, TypeExpr.text.fit F [] v = .ok ⟨.text s, fit⟩ := by
  rw [TypeExpr.fit]
  unfold Value.fitText
  split
  · cases h
    exact ⟨.exact, rfl⟩
  · next hs =>
    cases h.symm.trans hs
    exact ⟨.close, rfl⟩
  · next hnone => cases h.symm.trans hnone
  · next hnone => cases h.symm.trans hnone

namespace Catalog

theorem family_lacksNull : family.LacksNull := by
  decide +kernel

/-- The attributes of an error record. -/
def errorSlots (code : Int) (text : String) (data : Value) : List (Slot Value) :=
  [⟨"code", .int code, .given⟩, ⟨"message", .text text, .given⟩, ⟨"data", data, .given⟩]

/-- What a field of an error record is given. -/
def errorGiven (code message data : Value) (d : FieldDecl) : Option Value :=
  Value.lookup [("code", code), ("message", message), ("data", data)] d.name

/-- An integer, a text and JSON data make an error record; members of enumerations may stand in for
the integer and the text. -/
theorem make_error {code message data : Value} {n : Int} {text : String}
    (hcode : code.integer? = some n) (htext : message.text? = some text) (hdata : data.IsJson) :
    responseError.make family [("code", code), ("message", message), ("data", data)] =
      .ok (.record responseError.ref (errorSlots n text data)) := by
  have hfound : family.find? responseError.ref = some responseError := rfl
  have hregular := (family_regular.model hfound).1
  have hd := hregular.fields (.optional "data" .any) (.tail _ (.tail _ (.head _)))
  obtain ⟨_, hcode'⟩ := TypeExpr.fit_of_integer? (F := family) hcode
  obtain ⟨_, htext'⟩ := TypeExpr.fit_of_text? (F := family) htext
  obtain ⟨_, hdata'⟩ := Model.fit_conforming family_regular hd (.any hdata)
  have hfit : fitFields family true (.object (responseError.entries (errorGiven code message data)))
      responseError.fields =
        .ok ([], responseError.slots (errorGiven (.int n) (.text text) data)) :=
    Model.fitFields_given hregular (List.forall_mem_cons.2
      ⟨.inl ⟨code, .int n, _, rfl, rfl, hcode'⟩, List.forall_mem_cons.2
        ⟨.inl ⟨message, .text text, _, rfl, rfl, htext'⟩, List.forall_mem_cons.2
          ⟨.inl ⟨data, data, _, rfl, rfl, hdata'⟩, List.forall_mem_nil _⟩⟩⟩)
  exact Model.make_of_fitFields hregular hfit rfl

/-- The error of a request is the general one or that of the first request. -/
theorem error_shapes : ∀ R ∈ registries, ∀ m ∈ R.methods, m.replies.all (fun r =>
    decide (r.error = responseError.shape ∨ r.error = initializeResponseError.shape)) = true := by
  decide +kernel

theorem error_conforms (code : Int) (text : String) {data : Value} (hdata : data.IsJson) :
    Conforms family responseError.shape
      (.record responseError.ref (errorSlots code text data)) := by
  have hfind : family.find? responseError.ref = some responseError := rfl
  refine .of_forall₂ (family_regular.model hfind).1 hfind (.cons ⟨rfl, nofun, fun _ => ?_⟩
    (.cons ⟨rfl, nofun, fun _ => .text rfl text⟩
      (.cons ⟨rfl, fun _ => .inl rfl, fun _ => .any hdata⟩ .nil))) nofun
  exact .integer rfl code nofun nofun

theorem bareError_conforms (code : Int) (text : String) :
    Conforms family initializeResponseError.shape
      (.record initializeResponseError.ref (errorSlots code text .null)) := by
  have hfind : family.find? initializeResponseError.ref = some initializeResponseError := rfl
  refine .of_forall₂ (family_regular.model hfind).1 hfind (.cons ⟨rfl, nofun, fun _ => ?_⟩
    (.cons ⟨rfl, nofun, fun _ => .text rfl text⟩
      (.cons ⟨rfl, fun _ => .inl rfl, fun h => absurd rfl h⟩ .nil))) nofun
  exact .integer rfl code nofun nofun

/-- Data that is no record is no error of its own. -/
theorem encode_bareError (code : Int) (text : String) {data : Value} (hdata : data.IsJson)
    (hnull : data.isNull = false) (w : Value) :
    encode family (.record responseError.ref (errorSlots code text data))
      initializeResponseError.shape ≠ .ok w := by
  intro h
  have hfind : family.find? initializeResponseError.ref = some initializeResponseError := rfl
  obtain ⟨own, slots, hrecord, _, hwrote⟩ :=
    encode_record_wrote (family_regular.model hfind).1.keyed hfind h
  cases hrecord
  have hslot : Value.slot? (errorSlots code text data) "data" = some ⟨"data", data, .given⟩ := rfl
  have hother : ∀ {slot : Slot Value}, Value.slot? (errorSlots code text data) "data" = some slot →
      slot.value.isNull = false := by
    intro slot hfound
    cases hslot.symm.trans hfound
    exact hnull
  have hdeclared : FieldDecl.optional "data" initializeError.type ∈
      initializeResponseError.fields :=
    .tail _ (.tail _ (.head _))
  have hdata' := hwrote _ hdeclared
  generalize w.at? _ = found at hdata'
  cases hdata' with
  | nothing optional absent =>
      obtain ⟨slot, hfound, hisNull⟩ := absent rfl
      cases (hother hfound).symm.trans hisNull
  | null nullable hfound hisNull => cases (hother hfound).symm.trans hisNull
  | value hfound present encoded =>
      cases hslot.symm.trans hfound
      have hshape : (FieldDecl.optional "data" initializeError.type).asField.shape =
          initializeError.shape := rfl
      rw [hshape] at encoded
      have hfind : family.find? initializeError.ref = some initializeError := rfl
      obtain ⟨_, _, rfl, _⟩ :=
        encode_record_wrote (family_regular.model hfind).1.keyed hfind encoded
      cases hdata

/-- An error without data is written for every request, and one with data where the error of the
request is the general one. -/
theorem encode_error (code : Int) (text : String) {data : Value} (hdata : data.IsJson) {E : Model}
    (hE : E = responseError ∨ E = initializeResponseError ∧ data = .null) :
    ∃ w u, encode family (.record responseError.ref (errorSlots code text data)) E.shape = .ok w ∧
      (decode family false w E.shape).outcome = .ok u := by
  rcases hE with rfl | ⟨rfl, rfl⟩
  · obtain ⟨w, hw, _⟩ := (error_conforms code text hdata).delivers family_regular rfl
    exact ⟨w, _, hw.encoded, hw.decoded⟩
  · obtain ⟨w, hw, _⟩ := (bareError_conforms code text).delivers family_regular rfl
    have hdeclares : ∀ d ∈ initializeResponseError.fields,
        responseError.declares d.name = true := by
      decide +kernel
    exact ⟨w, _, encode_record_of_own family_regular rfl rfl hdeclares hw.encoded, hw.decoded⟩

/-! ### Replies -/

section Replies

variable {R : Registry} {m : Method} {replies : Replies} {name : String} {reply : Reply}

theorem replies_of_request (hm : R.getRequest name = .ok (m, replies)) :
    m ∈ R.methods ∧ m.replies = some replies := by
  obtain ⟨hfound, hreplies⟩ := Registry.getRequest_ok_iff.1 hm
  exact ⟨Registry.mem_of_find? hfound, hreplies⟩

/-- A reply that could be built from a result is accepted, if it is JSON. -/
theorem accepts_result (hR : R ∈ registries) {v : Value}
    (h : R.buildReply family name v .null = .ok reply) (hw : reply.payload.IsJson) (id : Value) :
    ∃ a, (R.acceptResponse family name (reply.message id)).outcome = .ok a := by
  unfold Registry.buildReply at h
  obtain ⟨⟨m, replies⟩, hm, h⟩ := bind_eq_ok.1 h
  obtain ⟨w, hencode, h⟩ := bind_eq_ok.1 h
  cases h
  obtain ⟨hmem, hreplies⟩ := replies_of_request hm
  obtain ⟨_, hresult, _⟩ := replies_regular hR hmem hreplies
  have hwritten : encode family v replies.result = .ok w := by
    cases hwritten : encode family v replies.result with
    | ok u => rw [hwritten] at hencode; cases hencode; rfl
    | error e => rw [hwritten] at hencode; cases hencode
  obtain ⟨u, hu⟩ := decode_of_encode family_regular family_lacksNull hresult hwritten hw
  exact ⟨_, Registry.acceptResponse_result hm rfl rfl rfl hu⟩

/-- A reply is built from an error record that is general enough, and is accepted. -/
theorem accepts_error (hR : R ∈ registries) (hm : R.getRequest name = .ok (m, replies))
    (code : Int) (text : String) {data : Value} (hdata : data.IsJson)
    (hbare : replies.error = responseError.shape ∨ data = .null) :
    ∃ reply, R.buildReply family name .null
        (.record responseError.ref (errorSlots code text data)) = .ok reply ∧
      ∀ id, ∃ a, (R.acceptResponse family name (reply.message id)).outcome = .ok a := by
  obtain ⟨hmem, hreplies⟩ := replies_of_request hm
  have hshape := error_shapes R hR m hmem
  rw [hreplies, Option.all_some, decide_eq_true_eq] at hshape
  obtain ⟨E, hE, hown⟩ : ∃ E, (E = responseError ∨ E = initializeResponseError ∧ data = .null) ∧
      replies.error = E.shape := by
    rcases hshape with hgeneral | hown
    · exact ⟨_, .inl rfl, hgeneral⟩
    · exact ⟨_, .inr ⟨rfl, hbare.resolve_left (by rw [hown]; decide)⟩, hown⟩
  obtain ⟨w, u, hencode, hdecode⟩ := encode_error code text hdata hE
  rw [← hown] at hencode hdecode
  exact ⟨_, Registry.buildReply_error hm hencode rfl .null,
    fun id => ⟨_, Registry.acceptResponse_error hm rfl rfl rfl hdecode⟩⟩

/-- No reply is built from an error with data to a request that has an error of its own. -/
theorem no_reply_with_data (hm : R.getRequest name = .ok (m, replies))
    (hown : replies.error = initializeResponseError.shape) (code : Int) (text : String)
    {data : Value} (hdata : data.IsJson) (hnull : data.isNull = false) :
    ∃ e, R.buildReply family name .null
      (.record responseError.ref (errorSlots code text data)) = .error e := by
  unfold Registry.buildReply
  rw [hm, ok_bind]
  simp only [Value.isNull, Bool.false_eq_true, if_false, hown]
  cases hencode : encode family (.record responseError.ref (errorSlots code text data))
      initializeResponseError.shape with
  | ok w => exact absurd hencode (encode_bareError code text hdata hnull w)
  | error e => exact ⟨m.refusal e, rfl⟩

end Replies

end Catalog

end EditorProtocol
