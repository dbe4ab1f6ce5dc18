import EditorProtocol.Proofs.Catalog.Regular
import EditorProtocol.Proofs.Codec.Unwritable

/-!
Encoding records of the catalogs that were made without validation. They are written or refused like
other values if all attributes that must be there were given, also as parts of other values and
where a shape has alternatives. Where such an attribute was never set encoding fails altogether,
whatever alternatives are left.
-/

namespace EditorProtocol.Catalog

/-- Encoding gives a wire value or a mismatch, or fails for a part of the value. Under shapes
without floats, as those of the catalogs are, the part is a record with an attribute that was never
set, or bytes that are no text; values that are built up with all that is needed have neither. The
alternatives of a union are tried one after the other as long as they refuse a value. No record with
fields that must be there is refused when it is made of nothing: encoding fails. -/
theorem unchecked_written_or_unset (v : Value) (s : Shape) :
    (Decided (encode family v s) ∨ ∃ f, encode family v s = .error f ∧ Unwritable family v s f) ∧
    (s.isFloatless = true →
      (∀ f, Unwritable family v s f →
        (∃ own name, f = .noAttribute own.name name ∧ v.Misses family own name) ∨ v.Garbles f) ∧
      (v.IsBuilt family → Decided (encode family v s))) ∧
    (∀ R ∈ registries, ∀ m ∈ R.methods, ∀ t ∈ m.shapes, t.isFloatless = true) ∧
    (∀ alternatives,
      (∀ t ∈ alternatives, Refused (encode family v t)) ∧
          Refused (encode family v (.union alternatives)) ∨
        ∃ before t after, alternatives = before ++ t :: after ∧
          (∀ u ∈ before, Refused (encode family v u)) ∧ ¬Refused (encode family v t) ∧
            encode family v (.union alternatives) = encode family v t) ∧
    ∀ ref m, family.find? ref = some m → (∃ d ∈ m.fields, d.fallback = none) →
      ∃ d ∈ m.fields, d.fallback = none ∧
        encode family (m.instanceOf []) (.record ref) = .error (.noAttribute ref.name d.name) := by
  refine ⟨encode_attributed family_regular.sound v s, fun hs => ⟨?causes, ?built⟩, ?shapes,
    encode_union_cases family v, ?bare⟩
  case causes => exact fun f h => h.causes family_regular hs
  case built => exact fun hv => encode_whole family_regular hs (hv.isWhole family_regular)
  case shapes =>
    exact fun R hR m hm t ht => t.isFloatless_of_isRegular (shapes_regular R hR m hm t ht)
  case bare => exact fun ref m => encode_bare family_regular

/-! ### Places -/

/-- A position that is made without its character. -/
def bareLine : Value := position.instanceOf [("line", .int 1)]

theorem encode_bareLine :
    encode family bareLine position.shape = .error (.noAttribute "Position" "character") := by
  have hfields : position.fields =
      [.required "line" .nonNegative] ++ .required "character" .nonNegative :: [] := rfl
  have hencode (F : Family) :
      encode F (.int 1) (FieldDecl.required "line" .nonNegative).asField.shape = .ok (.int 1) := by
    show encode F (.int 1) (.primitive ⟨.integer, some 0, none⟩) = _
    rw [encode]
    rfl
  have hready : ∀ d ∈ [FieldDecl.required "line" .nonNegative],
      d.IsReady family [⟨"line", .int 1, .given⟩] :=
    List.forall_mem_singleton.2 ⟨_, rfl, nofun, fun _ => ⟨_, hencode family⟩⟩
  exact encode_unset family_regular rfl hfields hready rfl rfl

/-- A position with a line and a character. -/
def placed (line character : Int) : Value :=
  position.instanceOf [("line", .int line), ("character", .int character)]

theorem placed_isBuilt (line character : Int) : (placed line character).IsBuilt family := by
  have hfind : family.find? position.ref = some position := rfl
  have hint (n : Int) : (Value.int n).IsBuilt family := .plain nofun nofun nofun
  refine .made hfind (fun e he => ?_) fun d hd _ => ?_
  · rcases List.mem_pair.1 he with rfl | rfl
    · exact hint line
    · exact hint character
  · rcases List.mem_pair.1 hd with rfl | rfl <;> rfl

/-- A range that ends before it starts. -/
def reversed : Value := range.instanceOf [("start", placed 6 0), ("end", placed 5 0)]

theorem reversed_isBuilt : reversed.IsBuilt family := by
  have hfind : family.find? range.ref = some range := rfl
  refine .made hfind (fun e he => ?_) fun d hd _ => ?_
  · rcases List.mem_pair.1 he with rfl | rfl
    · exact placed_isBuilt 6 0
    · exact placed_isBuilt 5 0
  · rcases List.mem_pair.1 hd with rfl | rfl <;> rfl

/-- A reversed range has all that is needed, so it is refused or written; a position without a
character has an attribute that was never set. -/
theorem unchecked_written_or_unset_places :
    reversed.IsBuilt family ∧
      Decided (encode family reversed (.union [position.shape, range.shape])) ∧
      ∃ own, own.name = "Position" ∧ bareLine.Misses family own "character" := by
  have hreversed := unchecked_written_or_unset reversed (.union [position.shape, range.shape])
  have hbare := unchecked_written_or_unset bareLine position.shape
  refine ⟨reversed_isBuilt, (hreversed.2.1 rfl).2 reversed_isBuilt, ?_⟩
  rcases hbare.1 with hdecided | ⟨f, hf, hcause⟩
  · rw [encode_bareLine] at hdecided
    rcases hdecided with ⟨w, ⟨⟩⟩ | ⟨m, ⟨⟩⟩
  · cases encode_bareLine.symm.trans hf
    rcases (hbare.2.1 rfl).1 _ hcause with ⟨own, name, heq, hmisses⟩ | hgarbles
    · obtain ⟨hname, rfl⟩ := Fault.noAttribute.inj heq
      exact ⟨own, hname.symm, hmisses⟩
    · obtain ⟨bs, _, hbytes⟩ := hgarbles
      unfold Value.textOfBytes at hbytes
      split at hbytes <;> cases hbytes

/-- A position without a character is not refused: encoding fails, also where an alternative is left
that would take it. -/
theorem unset_attribute_escapes :
    encode family bareLine position.shape = .error (.noAttribute "Position" "character") ∧
      encode family bareLine (.union [position.shape, .any]) =
        .error (.noAttribute "Position" "character") ∧
      encode family bareLine .any = .ok (.object [("line", .int 1)]) := by
  refine ⟨encode_bareLine, ?_, ?_⟩
  · rw [encode, encodeFirst, encode_bareLine]
    rfl
  · unfold bareLine Model.instanceOf
    rw [encode]
    rfl

end EditorProtocol.Catalog
