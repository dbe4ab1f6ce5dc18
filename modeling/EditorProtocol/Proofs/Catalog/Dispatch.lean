import EditorProtocol.Proofs.Catalog.Regular
import EditorProtocol.Proofs.Endpoint.Dispatch
import EditorProtocol.Proofs.Endpoint.Outgoing

/-!
Dispatching over the catalogs. Whatever has happened to an endpoint, no object of JSON makes its
loop fail, and one that is no valid request, no valid notification of a known method and no response
to a request that was sent changes nothing but the log.
-/

namespace EditorProtocol.Catalog

open Session

variable {R : Registry} {s : Session} {m : Value}

theorem isRegular (hR : R ∈ registries) : R.IsRegular family := shapes_regular R hR

/-- What happens to an endpoint brings it to a session that it reaches. In each of those, a message
is dispatched without a failure, whatever the handler of a notification does, also when it goes on
after it had to wait; and a message without effect is answered by entries of the log alone. -/
theorem dispatch_isolates (hR : R ∈ registries) (hm : m.IsJson) (hobject : m.isObject = true) :
    (∀ hs, (start family R).Reaches ((start family R).life hs)) ∧
    ∀ s, (start family R).Reaches s →
      (∀ e, (s.dispatch m).1 ≠ .failed e) ∧
      (∀ b e, (s.advanceHandler b).1 ≠ .failed e) ∧
      ((∀ r, ¬ m.Requests s.family r) → (∀ n, ¬ m.Notifies s n) → (∀ id, ¬ m.RespondsTo s id) →
        ∃ entries, s.dispatch m = (.done, { s with log := s.log ++ entries })) := by
  refine ⟨reaches_life _, fun s hs => ?_⟩
  obtain ⟨ds, path⟩ := hs
  obtain ⟨hfamily, hregistry⟩ := path.home
  have hF : s.family.Regular := hfamily ▸ family_regular
  have hregular : s.registry.IsRegular s.family := by
    rw [hfamily, hregistry]
    exact isRegular hR
  refine ⟨dispatch_survives hF hregular hm hobject, s.advanceHandler_survives, ?_⟩
  intro hrequest hnotification hresponse
  obtain ⟨hdone, entries, hentries⟩ :=
    dispatch_ignored hF hregular hm hobject hrequest hnotification hresponse
  exact ⟨entries, Prod.ext hdone hentries⟩

/-- A response that an endpoint receives without having sent anything. -/
theorem dispatch_isolates_unasked : ∃ entries,
    (start family legacy).dispatch (.object [("id", .int 7), ("result", .null)]) =
      (.done, { start family legacy with log := (start family legacy).log ++ entries }) := by
  have hjson : (Value.object [("id", .int 7), ("result", .null)]).IsJson := by
    refine .object ?_
    rintro e (_ | ⟨_, _ | ⟨_, ⟨⟩⟩⟩)
    · exact .int 7
    · exact .null
  have hmethod : ∀ b, (Value.object [("id", .int 7), ("result", .null)]).has "method" = .ok b →
      b = false := by
    rintro b h
    cases h
    rfl
  refine ((dispatch_isolates (R := legacy) (.tail _ (.head _)) hjson rfl).2 _ (.refl _)).2.2
    (fun r h => ?_) (fun n h => ?_) fun id h => ?_
  · cases hmethod true h.method
  · cases hmethod true h.method
  · rcases h.sent with h | ⟨o, ho, _⟩
    · cases h
    · cases ho

end EditorProtocol.Catalog
