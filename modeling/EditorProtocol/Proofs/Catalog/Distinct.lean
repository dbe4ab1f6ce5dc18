import EditorProtocol.Proofs.Catalog.Messages
import EditorProtocol.Proofs.Codec.Exclusive

/-!
Values of the catalogs are of one alternative only. In every union that the payload of a method
leads to, a closed value of one alternative is refused by the others, and a closed result of a
request is refused as its error, as is a closed error as its result.
-/

namespace EditorProtocol.Catalog

theorem family_exclusive : family.isExclusive = true := by
  decide +kernel

theorem shapes_clear :
    ∀ R ∈ registries, ∀ m ∈ R.methods, ∀ s ∈ m.shapes, s.isClear family = true := by
  decide +kernel

theorem replies_exclusive :
    ∀ R ∈ registries, ∀ m ∈ R.methods, ∀ replies ∈ m.replies,
      (replies.result.excludes family replies.error &&
        replies.error.excludes family replies.result) = true := by
  decide +kernel

/-- A closed value of an alternative is no value of another one, and neither is a closed result an
error nor a closed error a result. -/
theorem closed_values_unambiguous {R : Registry} {m : Method} (hR : R ∈ registries)
    (hm : m ∈ R.methods) :
    (∀ s ∈ m.shapes, ∀ alternatives, family.Reaches s (.union alternatives) →
      alternatives.Pairwise (Shape.Exclusive family)) ∧
      ∀ replies, m.replies = some replies → replies.result.Exclusive family replies.error := by
  constructor
  · intro s hs alternatives hreaches
    exact hreaches.exclusive family_regular family_exclusive (shapes_clear R hR m hm s hs)
  · intro replies hreplies
    obtain ⟨_, hresult, herror⟩ := replies_regular hR hm hreplies
    exact Shape.exclusive_of_excludes family_regular hresult herror
      (replies_exclusive R hR m hm replies hreplies)

/-- The number of a request that is taken back is no text, and the empty result no error. -/
theorem closed_values_unambiguous_cancel :
    Refused (decode family false (.int 5) (.ofKind .string)).outcome ∧
      Refused (decode family false .null responseError.shape).outcome := by
  have hinteger : (Shape.ofKind .integer).Takes family (.int 5) := by
    refine ⟨.int 5, ?_⟩
    rw [Shape.ofKind, decode]
    rfl
  have hreaches : family.Reaches cancelParams.shape
      (.union [.ofKind .integer, .ofKind .string]) :=
    .field (f := ⟨"id", "id", .union [.ofKind .integer, .ofKind .string], false⟩) .refl rfl
      (.head _)
  have hcancel := (closed_values_unambiguous (R := legacy)
    (m := notification cancelName cancelParams.shape) (.tail _ (.head _))
    (.tail _ (.tail _ (.tail _ (.head _))))).1 _ (.head _) _ hreaches
  have hshutdown := (closed_values_unambiguous (R := legacy) (m := request "shutdown" .null .null)
    (.tail _ (.head _)) (.tail _ (.head _))).2 _ rfl
  constructor
  · exact ((List.pairwise_cons.1 hcancel).1 _ (.head _) (.int 5) (.int 5)).1 hinteger
      (.primitive _ _)
  · exact (hshutdown .null .null).1 Shape.null_takes (.primitive _ _)

end EditorProtocol.Catalog
