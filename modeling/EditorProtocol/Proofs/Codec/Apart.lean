import EditorProtocol.Proofs.Codec.Decoding
import EditorProtocol.Proofs.Codec.Encoding

/-!
Alternatives that can be told apart. A typed value that conforms to a later alternative is refused
by the earlier ones when it is encoded, and so is its wire form when it is decoded.
-/

namespace EditorProtocol

variable {F : Family} {exact : Bool} {s t : Shape} {v w : Value}

/-- Two shapes are apart as records or by the forms of their values. -/
theorem Shape.isApart_inv (h : s.isApart F t = true) :
    (∃ a b, s = .record a ∧ t = .record b ∧ F.leads a b = true) ∨
      ∃ j k, s.wireKind? = some j ∧ t.wireKind? = some k ∧ k ≠ j := by
  unfold isApart at h
  split at h
  · exact .inl ⟨_, _, rfl, rfl, h⟩
  · split at h
    · next j k hj hk => exact .inr ⟨j, k, hj, hk, fun heq => by simp [heq] at h⟩
    · cases h

theorem Shape.areApart_inv {before after : List Shape}
    (h : Shape.areApart F (before ++ s :: after) = true) : ∀ t ∈ before, t.isApart F s = true := by
  induction before with
  | nil => exact fun t ht => (List.not_mem_nil ht).elim
  | cons u rest ih =>
      rw [List.cons_append, areApart, Bool.and_eq_true, List.all_eq_true] at h
      intro t ht
      rcases List.mem_cons.1 ht with rfl | ht
      · exact h.1 s (List.mem_append_right rest List.mem_cons_self)
      · exact ih h.2 t ht

/-- The field that the records of one model begin with and those of another one lack. -/
theorem Family.leads_inv {a b : ModelRef} (h : F.leads a b = true) :
    ∃ m n d rest, F.find? a = some m ∧ F.find? b = some n ∧ m.fields = d :: rest ∧
      d.fallback.isNone = true ∧ ∀ e ∈ n.fields, e.name ≠ d.name ∧ e.wire ≠ d.wire := by
  unfold leads at h
  split at h
  · next m n hm hn =>
    split at h
    · next d rest hfields =>
      rw [Bool.and_eq_true, List.all_eq_true] at h
      refine ⟨m, n, d, rest, hm, hn, hfields, h.1, fun e he => ?_⟩
      simpa using h.2 e he
    · cases h
  · cases h

/-- A conforming value travels in the form of its shape. -/
theorem Conforms.wireKind? (hs : s.isRegular F = true) (h : Conforms F s v) {k : WireKind}
    (hk : s.wireKind? = some k) : v.unwrapped.wireKind? = some k := by
  cases h with
  | null kind =>
      rw [Shape.wireKind?, kind] at hk
      exact hk
  | text kind =>
      rw [Shape.wireKind?, kind] at hk
      exact hk
  | boolean kind =>
      rw [Shape.wireKind?, kind] at hk
      exact hk
  | integer kind =>
      rw [Shape.wireKind?, kind] at hk
      exact hk
  | float kind =>
      rw [Shape.wireKind?, kind] at hk
      cases hk
  | @member e m declared =>
      exact EnumShape.wireKind?_of_admits hk (EnumShape.admits_code hs declared).1
  | code _ listed json =>
      rw [json.unwrapped]
      exact EnumShape.wireKind?_of_admits hk listed
  | list => exact hk
  | record => exact hk
  | any => cases hk
  | absent => cases hk
  | present => cases hk
  | union => cases hk

/-- An earlier alternative refuses what conforms to a later one. -/
theorem encode_refused_of_apart (hF : F.Regular) (h : s.isApart F t = true)
    (ht : t.isRegular F = true) (hv : Conforms F t v) : Refused (encode F v s) := by
  rcases Shape.isApart_inv h with ⟨a, b, rfl, rfl, hleads⟩ | ⟨j, k, hj, hk, hne⟩
  -- Records are not told apart by their models: encoding stops at the field that is missing.
  · obtain ⟨m, n, d, rest, hm, hn, hfields, hnone, hlacks⟩ := Family.leads_inv hleads
    cases hv with
    | record =>
        exact encode_record_missing hF hm hfields hnone hn fun e he => (hlacks e he).1
  · exact encode_refused_of_kind hj (hv.wireKind? ht hk) hne

/-- A value that is decoded travels in the form of its shape. -/
theorem wireKind?_of_decode (hw : w.IsJson) (h : (decode F exact w s).outcome = .ok v)
    {k : WireKind} (hk : s.wireKind? = some k) : w.wireKind? = some k := by
  by_contra hne
  exact (decode_refused_of_kind hw hk hne).ne_ok v h

/-- A wire value has no keys but those of the fields of its record shape. -/
def Shape.Covers (F : Family) (s : Shape) (w : Value) : Prop :=
  ∀ ref m, s = .record ref → F.find? ref = some m →
    ∀ key item, w.at? key = some item → key ∈ m.fields.map (·.wire)

/-- An earlier alternative refuses what was written for a later one. -/
theorem decode_refused_of_apart (hF : F.Regular) (h : s.isApart F t = true) (hw : w.IsJson)
    (ht : (decode F exact w t).outcome = .ok v) (hkeys : t.Covers F w) :
    Refused (decode F exact w s).outcome := by
  rcases Shape.isApart_inv h with ⟨a, b, rfl, rfl, hleads⟩ | ⟨j, k, hj, hk, hne⟩
  · obtain ⟨m, n, d, rest, hm, hn, hfields, hnone, hlacks⟩ := Family.leads_inv hleads
    refine decode_record_missing hF hm hfields hnone ?_
    cases hat : w.at? d.wire with
    | none => rfl
    | some item =>
        obtain ⟨e, he, hwire⟩ := List.mem_map.1 (hkeys b n rfl hn d.wire item hat)
        exact absurd hwire (hlacks e he).2
  · refine decode_refused_of_kind hw hj ?_
    rw [wireKind?_of_decode hw ht hk]
    exact fun heq => hne (Option.some.inj heq)

end EditorProtocol
