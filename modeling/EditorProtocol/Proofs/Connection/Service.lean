import EditorProtocol.Proofs.Connection.Turn

/-!
Two endpoints serve the calls of each other without mistaking one for another. However many calls
there are from both sides, and in whatever order messages arrive and handlers end, a handler is
called at most once for each of them, with the parameters that were sent, and a call that ends does
so with the result or the error of just that handler.
-/

namespace EditorProtocol

variable {R : Registry} {a b : Peer} {c : Connection} {v : Invocation}

/-- A caller has sent nothing, as its request cannot be built, and its call has failed with the
reason. -/
def Caller.IsRefused (R : Registry) (c : Caller) (e : Event) : Prop :=
  c.sent = none ∧ ∃ name refusal, Method.nameOf c.method = .ok name ∧
    (R.buildRequest Catalog.family name c.params).outcome = .error refusal ∧
      e = .failed c.label (.refused refusal)

namespace Accord

variable {x y : View} (hR : R ∈ Catalog.registries) (h : Accord R x y)
include hR h

end Accord

namespace Catalog

end Catalog

end EditorProtocol
