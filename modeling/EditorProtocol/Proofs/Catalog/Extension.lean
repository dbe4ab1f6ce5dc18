import EditorProtocol.Proofs.Catalog.Regular
import EditorProtocol.Proofs.Codec.Extension
import EditorProtocol.Proofs.Codec.RoundTrip

/-!
Models of the catalogs that extend others. The fields that a model inherits are in the order of the
model that declares them, however many parents it has; so where none of them is declared anew, what
one decodes and writes for the ancestor is the part of it for the descendant that the ancestor has
fields for.
-/

namespace EditorProtocol

/-! ### Ancestors -/

/-- What holds between a model and itself and between a model and its parents holds between a model
and all its ancestors. -/
theorem Family.holds_of_isKind {F : Family} {P : Model → Model → Prop} (refl : ∀ m, P m m)
    (trans : ∀ {k m n}, P k m → P m n → P k n)
    (step : ∀ m ∈ F.models, ∀ p ∈ m.parents, ∃ n, F.find? p = some n ∧ P m n)
    {ref other : ModelRef} {m n : Model} (hm : F.find? ref = some m) (hn : F.find? other = some n)
    (h : F.isKind ref other = true) : P m n := by
  have hclimb : ∀ steps ref m, F.find? ref = some m →
      isKind.climb F other steps ref = true → P m n := by
    have hself : ∀ ref m, F.find? ref = some m → ref = other → P m n := by
      rintro ref m hm rfl
      cases hm.symm.trans hn
      exact refl _
    intro steps
    induction steps with
    | zero => exact fun ref m hm h => hself ref m hm (beq_iff_eq.1 h)
    | succ steps ih =>
        intro ref m hm h
        rw [isKind.climb, Bool.or_eq_true, beq_iff_eq, hm] at h
        rcases h with heq | hany
        · exact hself ref m hm heq
        · obtain ⟨parent, hmem, hclimb⟩ := List.any_eq_true.1 hany
          obtain ⟨k, hk, hstep⟩ := step m (mem_of_find? hm).1 parent hmem
          exact trans hstep (ih parent k hk hclimb)
  exact hclimb _ ref m hm h

/-- A model is found by its reference if no other one has it. -/
theorem Family.find?_of_mem {F : Family} (nodup : (F.models.map (·.ref)).Nodup) {m : Model}
    (hm : m ∈ F.models) : F.find? m.ref = some m := by
  cases hfind : F.find? m.ref with
  | none =>
      have habsent := List.find?_eq_none.1 hfind m hm
      simp at habsent
  | some n =>
      obtain ⟨hn, href⟩ := mem_of_find? hfind
      rw [List.inj_on_of_nodup_map nodup hn hm href]

namespace Catalog

theorem refs_nodup : (family.models.map (·.ref)).Nodup := by
  decide +kernel

/-- A model has the fields of another one by name, in their order, and keeps its rule. -/
def Outlines (larger smaller : Model) : Prop :=
  (smaller.fields.map (·.name)).Sublist (larger.fields.map (·.name)) ∧
    (smaller.ordered = true → larger.ordered = true)

instance (larger smaller : Model) : Decidable (Outlines larger smaller) :=
  inferInstanceAs (Decidable (_ ∧ _))

theorem parents_outlined :
    ∀ m ∈ family.models, ∀ p ∈ m.parents, ∃ n, family.find? p = some n ∧ Outlines m n := by
  have hall : ∀ m ∈ family.models, ∀ p ∈ m.parents,
      (family.find? p).any (Outlines m ·) = true := by
    decide +kernel
  intro m hm p hp
  obtain ⟨n, hn, houtlines⟩ := (Option.any_eq_true _ _).1 (hall m hm p hp)
  exact ⟨n, hn, of_decide_eq_true houtlines⟩

/-- A model extends its ancestors, as far as it keeps their fields. -/
theorem extends_of_isKind {larger smaller : Model} (hlarger : larger ∈ family.models)
    (hsmaller : smaller ∈ family.models) (hkind : family.isKind larger.ref smaller.ref = true)
    (hkept : ∀ d ∈ smaller.fields, d ∈ larger.fields) : larger.Extends smaller := by
  have hfind := Family.find?_of_mem refs_nodup hlarger
  have hfind' := Family.find?_of_mem refs_nodup hsmaller
  obtain ⟨hnames, hordered⟩ := Family.holds_of_isKind (P := Outlines)
    (fun m => ⟨.refl _, id⟩) (fun h h' => ⟨h'.1.trans h.1, h.2 ∘ h'.2⟩) parents_outlined
    hfind hfind' hkind
  have hkeyed := (family_regular.model hfind).1.keyed
  exact ⟨sublist_of_map hnames hkeyed.names hkept, hordered⟩

/-! ### Extension -/

/-- Of two models, one of which descends from the other and keeps its fields, the ancestor takes
every value that the descendant takes, and gives the attributes of the descendant's record that it
declares, with their values and whether they were given. What is written for a value as one of the
ancestor are the entries that are written for it as one of the descendant, those with keys of the
ancestor; and conforming values are written. -/
theorem extension_narrows {larger smaller : Model} (hlarger : larger ∈ family.models)
    (hsmaller : smaller ∈ family.models) (hkind : family.isKind larger.ref smaller.ref = true)
    (hkept : ∀ d ∈ smaller.fields, d ∈ larger.fields) :
    (∀ exact w v, (decode family exact w (.record larger.ref)).outcome = .ok v →
      ∃ slots, v = .record larger.ref slots ∧
        (decode family exact w (.record smaller.ref)).outcome =
          .ok (.record smaller.ref (slots.filter (smaller.declares ·.name)))) ∧
    (∀ v x, encode family v (.record larger.ref) = .ok x →
      ∃ entries, x = .object entries ∧
        encode family v (.record smaller.ref) = .ok (.object (entries.filter fun e =>
          (smaller.fields.map (·.wire)).contains e.1))) ∧
    ∀ v, Conforms family (.record larger.ref) v →
      ∃ x, encode family v (.record larger.ref) = .ok x := by
  have hfind := Family.find?_of_mem refs_nodup hlarger
  have hfind' := Family.find?_of_mem refs_nodup hsmaller
  have hextends := extends_of_isKind hlarger hsmaller hkind hkept
  refine ⟨fun exact w v h => ?_, fun v x h => ?_, fun v h => ?_⟩
  · exact decode_extension family_regular.sound hfind hfind' hextends h
  · exact encode_extension family_regular.sound hfind hfind' hextends h
  · have hregular : (Shape.record larger.ref).isRegular family = true := by
      rw [Shape.isRegular, hfind]
      rfl
    obtain ⟨x, hx, _⟩ := h.delivers family_regular hregular
    exact ⟨x, hx.encoded⟩

theorem extension_narrows_item :
    textDocumentItem ∈ family.models ∧ textDocumentIdentifier ∈ family.models ∧
      family.isKind textDocumentItem.ref textDocumentIdentifier.ref = true ∧
      (∀ d ∈ textDocumentIdentifier.fields, d ∈ textDocumentItem.fields) ∧
      ∀ w slots, (decode family true w (.record textDocumentItem.ref)).outcome =
          .ok (.record textDocumentItem.ref slots) →
        (decode family true w (.record textDocumentIdentifier.ref)).outcome =
          .ok (.record textDocumentIdentifier.ref
            (slots.filter (textDocumentIdentifier.declares ·.name))) := by
  have hitem : textDocumentItem ∈ family.models := by simp [family, models]
  have hidentifier : textDocumentIdentifier ∈ family.models := by simp [family, models]
  have hkind : family.isKind textDocumentItem.ref textDocumentIdentifier.ref = true := by
    decide +kernel
  have hkept : ∀ d ∈ textDocumentIdentifier.fields, d ∈ textDocumentItem.fields := by
    rintro d (_ | ⟨_, ⟨⟩⟩)
    exact List.mem_cons_self
  refine ⟨hitem, hidentifier, hkind, hkept, fun w slots h => ?_⟩
  obtain ⟨_, heq, hnarrowed⟩ := (extension_narrows hitem hidentifier hkind hkept).1 true w _ h
  cases heq
  exact hnarrowed

end Catalog

end EditorProtocol
