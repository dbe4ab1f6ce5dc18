import EditorProtocol.Method.Envelope
import EditorProtocol.Proofs.Catalog.Regular
import EditorProtocol.Proofs.Codec.Canon
import EditorProtocol.Proofs.Codec.Language

/-!
Encoding and decoding the payloads of the catalogs undo each other. A typed value comes back with
the same fields, and a wire value in its canonical form. What is decoded at all is what the shape
admits.
-/

namespace EditorProtocol.Catalog

/-! ### Typed values -/

/-- A conforming payload is written, and what is written is read back with the same fields. -/
theorem round_trip {R : Registry} {m : Method} {s : Shape} {v : Value} (hR : R ∈ registries)
    (hm : m ∈ R.methods) (hs : s ∈ m.shapes) (hv : Conforms family s v) :
    ∃ w u, encode family v s = .ok w ∧ (decode family false w s).outcome = .ok u ∧
      u.SameFields family v := by
  have hregular := shapes_regular R hR m hm s hs
  obtain ⟨w, hw, _⟩ := hv.delivers family_regular hregular
  have hsame := hv.sameFields_settled family_regular hregular
  exact ⟨w, v.settled family, hw.encoded, hw.decoded, hsame⟩

/-- The identity of a request is an integer or a text. -/
theorem requestId_conforms (id : RequestId) :
    Conforms family (.union [.ofKind .integer, .ofKind .string]) id.value := by
  cases id with
  | number n => exact .union (.head _) (.integer rfl n nofun nofun)
  | name s => exact .union (.tail _ (.head _)) (.text rfl s)

theorem cancelParams_conforms (id : RequestId) :
    Conforms family cancelParams.shape
      (.record cancelParams.ref [⟨"id", id.value, .given⟩]) := by
  have hfind : family.find? cancelParams.ref = some cancelParams := rfl
  refine .of_forall₂ (family_regular.model hfind).1 hfind ?_ fun h => ?_
  · refine .cons ⟨rfl, fun h => ?_, fun _ => requestId_conforms id⟩ .nil
    cases id <;> cases h
  · cases h

theorem round_trip_cancel : ∃ w u,
    encode family (.record cancelParams.ref [⟨"id", .int 5, .given⟩]) cancelParams.shape = .ok w ∧
      (decode family false w cancelParams.shape).outcome = .ok u ∧
      u.SameFields family (.record cancelParams.ref [⟨"id", .int 5, .given⟩]) :=
  round_trip (R := legacy) (m := notification cancelName cancelParams.shape) (.tail _ (.head _))
    (.tail _ (.tail _ (.tail _ (.head _)))) (.head _) (cancelParams_conforms (.number 5))

/-! ### Wire values -/

/-- What is decoded is written again in its canonical form, which is decoded to the same value and
is its own canonical form. -/
theorem canonical_round_trip {R : Registry} {m : Method} {s : Shape} {w : Value}
    (hR : R ∈ registries) (hm : m ∈ R.methods) (hs : s ∈ m.shapes) (hw : w.IsJson) :
    (∀ v, (decode family false w s).outcome = .ok v →
      encode family v s = .ok (canon family w s) ∧
        (decode family false (canon family w s) s).outcome = .ok v) ∧
      canon family (canon family w s) s = canon family w s := by
  have hregular := shapes_regular R hR m hm s hs
  refine ⟨fun v hv => ⟨?_, ?_⟩, ?_⟩
  · exact encode_of_decode family_regular hregular hw hv
  · exact (decode_canon family_regular hregular hw hv).2.2
  · exact canon_canon family_regular hregular hw

theorem decode_requestId (id : RequestId) :
    (decode family false id.value (.union [.ofKind .integer, .ofKind .string])).outcome =
      .ok id.value := by
  cases id with
  | number n =>
      have hinteger : (decode family false (.int n) (.ofKind .integer)).outcome = .ok (.int n) := by
        rw [Shape.ofKind, decode]
        rfl
      have hstring : Refused (decode family false (.int n) (.ofKind .string)).outcome := by
        rw [Shape.ofKind, decode]
        exact refused_refuse _ _ _
      exact decode_union_first (List.forall_mem_nil _) hinteger
        (List.forall_mem_singleton.2 hstring.decided)
  | name s =>
      have hinteger : Refused (decode family false (.text s) (.ofKind .integer)).outcome := by
        rw [Shape.ofKind, decode]
        exact refused_refuse _ _ _
      have hstring : (decode family false (.text s) (.ofKind .string)).outcome = .ok (.text s) := by
        rw [Shape.ofKind, decode]
        rfl
      exact decode_union_first (List.forall_mem_singleton.2 hinteger) hstring
        (List.forall_mem_nil _)

theorem isJson_requestId (id : RequestId) : id.value.IsJson := by
  cases id with
  | number n => exact .int n
  | name s => exact .text s

theorem isJson_cancelParams (id : RequestId) {more : List (String × Value)}
    (hmore : ∀ e ∈ more, e.2.IsJson) : (Value.object (("id", id.value) :: more)).IsJson := by
  refine .object fun e he => ?_
  rcases List.mem_cons.1 he with rfl | he
  · exact isJson_requestId id
  · exact hmore e he

/-- Keys that are not declared are passed over. -/
theorem decode_cancelParams (id : RequestId) {more : List (String × Value)}
    (hmore : ∀ e ∈ more, e.2.IsJson) :
    (decode family false (.object (("id", id.value) :: more)) cancelParams.shape).outcome =
      .ok (.record cancelParams.ref [⟨"id", id.value, .given⟩]) := by
  have hitem : (FieldDecl.required "id" (.unionOf [.integer, .text])).asField.item?
      (.object (("id", id.value) :: more)) = some id.value := by
    cases id <;> rfl
  have hvalue : Model.decoded family false (.object (("id", id.value) :: more))
      (.required "id" (.unionOf [.integer, .text])) = some id.value := by
    rw [Model.decoded, Field.value?, hitem, Option.bind_some]
    show (decode family false id.value
      (.union [.ofKind .integer, .ofKind .string])).outcome.toOption = some id.value
    rw [decode_requestId]
    rfl
  refine (decode_record_iff (m := cancelParams) family_regular rfl
    (isJson_cancelParams id hmore) rfl).2 ⟨?_, ?_, ?_⟩
  · rintro d (_ | ⟨_, ⟨⟩⟩)
    rw [Field.IsDecoded, hitem]
    refine ⟨fun h => ?_, id.value, decode_requestId id⟩
    cases id <;> cases h
  · show _ = Value.record _ [FieldDecl.slotOf _ _]
    rw [hvalue]
    cases id <;> rfl
  · intro h
    cases h

theorem canonical_round_trip_cancel : ∃ v,
    (decode family false (.object [("id", .int 5), ("more", .bool true)])
        cancelParams.shape).outcome = .ok v ∧
      encode family v cancelParams.shape =
        .ok (canon family (.object [("id", .int 5), ("more", .bool true)]) cancelParams.shape) := by
  have hmore : ∀ e ∈ [("more", Value.bool true)], e.2.IsJson := by
    rintro e (_ | ⟨_, ⟨⟩⟩)
    exact .bool true
  refine ⟨_, decode_cancelParams (.number 5) hmore, ?_⟩
  exact ((canonical_round_trip (R := legacy) (m := notification cancelName cancelParams.shape)
    (.tail _ (.head _)) (.tail _ (.tail _ (.tail _ (.head _)))) (.head _)
      (isJson_cancelParams (.number 5) hmore)).1 _ (decode_cancelParams (.number 5) hmore)).1

/-! ### Admitted payloads -/

/-- Ranges are the only records with an order, so what `Shape.Admits` asks of ordered records is
asked of ranges. -/
theorem ordered_iff_range : ∀ m ∈ family.models, m.ordered = true ↔ m.ref = range.ref := by
  decide +kernel

/-- A payload is decoded exactly if the shape admits it, and in the records that it is decoded to
just those fields are given that the wire has something for. -/
theorem takes_exactly_admitted {R : Registry} {m : Method} {s : Shape} {w : Value}
    (hR : R ∈ registries) (hm : m ∈ R.methods) (hs : s ∈ m.shapes) (hw : w.IsJson) :
    (s.Takes family w ↔ s.Admits family w) ∧
      ∀ exact v, (decode family exact w s).outcome = .ok v → s.Tracks family w v := by
  have hregular := shapes_regular R hR m hm s hs
  exact ⟨takes_iff_admits family_regular hregular hw, fun _ _ hv =>
    decode_tracks family_regular hregular hw hv⟩

theorem takes_exactly_admitted_cancel :
    cancelParams.shape.Admits family (.object [("id", .int 5), ("more", .bool true)]) ∧
      cancelParams.shape.Tracks family (.object [("id", .int 5), ("more", .bool true)])
        (.record cancelParams.ref [⟨"id", .int 5, .given⟩]) := by
  have hmore : ∀ e ∈ [("more", Value.bool true)], e.2.IsJson :=
    List.forall_mem_singleton.2 (.bool true)
  have hdecode := decode_cancelParams (.number 5) hmore
  obtain ⟨hadmits, htracks⟩ := takes_exactly_admitted (R := legacy)
    (m := notification cancelName cancelParams.shape) (.tail _ (.head _))
    (.tail _ (.tail _ (.tail _ (.head _)))) (.head _) (isJson_cancelParams (.number 5) hmore)
  exact ⟨hadmits.1 ⟨_, hdecode⟩, htracks false _ hdecode⟩

end EditorProtocol.Catalog
