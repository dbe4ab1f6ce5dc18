import EditorProtocol.Proofs.Catalog.Messages
import EditorProtocol.Proofs.Endpoint.Desk
import EditorProtocol.Proofs.Endpoint.Outcome

/-!
Calls over the catalogs. Whatever happens to an endpoint, each request that it sent gets the outcome
of the first response, cancellation or end of the loop that concerns it, and its call ends with just
that.
-/

namespace EditorProtocol

open Session

/-- The order that an endpoint keeps among the requests that it sent. -/
structure Session.Orderly (s : Session) : Prop where
  /-- The table holds the identities of the calls that wait, -/
  table : (s.outstanding.map (·.id)).Perm (s.callers.filterMap (·.sent))
  /-- each of them once, -/
  distinct : (s.outstanding.map (·.id)).Nodup
  /-- and none of them is one that is still to be given. -/
  fresh : ∀ o ∈ s.outstanding, ∃ k < s.nextId, o.id = .number k
  /-- A caller is woken once, when its request has an outcome. -/
  woken : (s.ready.filterMap Job.caller?).Nodup ∧
    ∀ o ∈ s.outstanding, o.caller ∈ s.ready.filterMap Job.caller? ↔ o.outcome.isSome = true
  /-- A response to a request that waits is read, -/
  reads : ∀ o ∈ s.outstanding, o.outcome = none → ∀ m : Value, m.IsJson →
    (o.reading s.family s.registry m).isSome = true
  /-- and the request is in a state to take the reply. -/
  resolves : ∀ o ∈ s.outstanding, o.outcome = none → ∀ (m : Value) (reply : Reply),
    (s.registry.acceptResponse s.family o.method.name m).outcome = .ok reply →
      ∃ p, o.pending.resolve reply = .ok p
  /-- Cancelling what is not in the table changes nothing, -/
  unknown : ∀ id : Value, (∀ o ∈ s.outstanding, RequestId.ofValue? id ≠ some o.id) →
    (Action.cancelRequest id).run s = (.error (.notPending id), s)
  /-- nor does cancelling what has its outcome. -/
  answered : ∀ id : Value, ∀ o ∈ s.outstanding, RequestId.ofValue? id = some o.id →
    o.outcome.isSome = true → (Action.cancelRequest id).run s = (.error (.answered id), s)

variable {s t : Session} {o : Outstanding} {id : Value}

namespace Catalog

variable {R : Registry}

theorem methods_same : ∀ R ∈ registries, ∀ m ∈ R.methods, m.same m = true := by
  decide +kernel

theorem contains_cancelName : ∀ R ∈ registries, R.contains cancelName = true := by
  decide +kernel

theorem servesCallers (hR : R ∈ registries) : R.ServesCallers :=
  ⟨methods_same R hR, contains_cancelName R hR⟩

theorem buildRequest_shutdown :
    (legacy.buildRequest family "shutdown" .null).outcome =
      .ok ⟨request "shutdown" .null .null, .null, .null⟩ := by
  refine Registry.buildRequest_ok_iff.2 ⟨⟨rfl, rfl⟩, ?_⟩
  refine (Method.conform_wire_iff (s := .null) rfl rfl).2 ⟨?_, ?_⟩
  · rw [Shape.null, Shape.ofKind, decode]
    rfl
  · rw [Shape.null, Shape.ofKind, encode]
    rfl

end Catalog

end EditorProtocol
