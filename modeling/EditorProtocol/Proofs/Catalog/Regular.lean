import EditorProtocol.Catalog.Legacy
import EditorProtocol.Proofs.Shape.Regular

/-!
The catalog is regular: the models of its family, and the shapes of all its methods.
-/

namespace EditorProtocol.Catalog

theorem family_regular : family.Regular := by
  -- A closed question about the declared models, which the kernel evaluates.
  decide +kernel

/-- Every method of a catalog is about regular shapes. -/
theorem shapes_regular :
    ∀ R ∈ registries, ∀ m ∈ R.methods, ∀ s ∈ m.shapes, s.isRegular family = true := by
  decide +kernel

end EditorProtocol.Catalog
