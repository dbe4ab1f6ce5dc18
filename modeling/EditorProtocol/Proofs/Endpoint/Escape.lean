import Mathlib.Algebra.Group.Int.Defs
import EditorProtocol.Proofs.Codec.Reading
import EditorProtocol.Proofs.Endpoint.Dispatch

/-!
Faults of decoding that get out of an endpoint. Decoding and matching end with a value, a mismatch,
or a fault that a part of the value has a cause for. A response makes the loop fail only by such a
fault in its result or its error, and over a sound family only by an integer there that is too large
for a float.
-/

namespace EditorProtocol

variable {s : Session} {m v : Value} {e e' : EndpointError}

/-- A request that waits for its reply is not completed by a response that is refused by an error
about anything but the shape of its payload. -/
theorem Action.handleResponse_unread (id : RequestId) {o : Outstanding} {r : Refusal}
    (hid : m.at? "id" = some id.value)
    (sent : s.cancelledOutgoing.contains id = false) (found : s.outstanding? id = some o)
    (waits : o.outcome.isSome = false)
    (hresponse : (s.registry.acceptResponse s.family o.pending.request.method.name m).outcome =
      .error r) (foreign : (EndpointError.refused r).isShape = false) :
    ((handleResponse m).run s).1 = .error (.refused r) := by
  have hkey : RequestId.ofValue? id.value = some id := by cases id <;> rfl
  unfold handleResponse
  rw [run_get_bind, hid, Option.getD_some]
  dsimp only
  split
  · next x hfloat => cases id <;> cases hfloat
  · rw [hkey]
    simp only [Option.any_some, sent, Option.bind_some, found, waits, Bool.false_eq_true, if_false]
    rw [run_bind, run_attempt, run_ofTraced, hresponse]
    simp only [mapError_error, foreign, Bool.not_false, if_true]
    rfl

namespace Session

theorem survive_failed (h : (s.survive e).1 = .failed e') : e.isOwn = false ∧ e' = e := by
  unfold survive at h
  split at h
  · cases h
  · next hown =>
    cases h
    exact ⟨Bool.eq_false_iff.2 hown, rfl⟩

/-- A response makes the loop fail only by a fault in its result or its error, where decoding it as
a reply to a request that was sent runs into the fault. -/
theorem response_fails (hobject : m.isObject = true) (hmethod : m.at? "method" = none)
    (hid : (m.at? "id").isSome = true) (h : (s.dispatch m).1 = .failed e) :
    ∃ o ∈ s.outstanding, ∃ d replies part shape f,
      s.registry.find? o.pending.request.method.name = some d ∧ d.replies = some replies ∧
        replies.Asks m part shape ∧ FaultAt s.family false part shape f ∧ f.isOwn = false ∧
          e = .refused (d.refusal f) := by
  obtain ⟨v, hv⟩ := Option.isSome_iff_exists.1 hid
  rw [dispatch_identified hobject hmethod hv] at h
  split at h
  · cases h
  · next e' t hrun =>
    obtain ⟨hforeign, rfl⟩ := survive_failed h
    obtain ⟨o, ho, r, hr, rfl⟩ := Action.handleResponse_refused (congrArg Prod.fst hrun)
    obtain ⟨d, replies, part, shape, f, hfind, hreplies, hasks, hfault, hown, rfl⟩ :=
      Registry.acceptResponse_foreign hr hforeign
    refine ⟨o, ho, d, replies, part, shape, f, hfind, hreplies, hasks, ?_, hown, rfl⟩
    refine (decode_attributed s.family false part shape).holds hfault ?_
    rintro mismatch rfl
    cases hown

end Session

/-- Decoding ends with a value or a mismatch, and matching with a verdict, unless a part of the
value runs into an overflow, a record without a shape, or a fault of bounds and orders; over a sound
family it is an integer too large for a float. Nothing else in a response makes the loop fail. -/
theorem faults_have_causes (F : Family) (exact : Bool) (w : Value) (shape : Shape) :
    (Decided (decode F exact w shape).outcome ∨
      ∃ f, (decode F exact w shape).outcome = .error f ∧ FaultAt F exact w shape f) ∧
    ((∃ b, isMatch F w shape = .ok b) ∨
      ∃ f, isMatch F w shape = .error f ∧ FaultAt F true w shape f) ∧
    (∀ f, FaultAt F exact w shape f →
      (f = .overflow ∨ (∃ e, f = .definition e) ∨ f.isStray = true) ∧
        (F.Sound → w.IsWire → f = .overflow ∧ Overflows F w shape)) ∧
    ∀ (s : Session) (m : Value) (e : EndpointError), m.isObject = true →
      m.at? "method" = none → (m.at? "id").isSome = true → (s.dispatch m).1 = .failed e →
        ∃ o ∈ s.outstanding, ∃ d replies part asked f,
          s.registry.find? o.pending.request.method.name = some d ∧ d.replies = some replies ∧
            replies.Asks m part asked ∧ FaultAt s.family false part asked f ∧ f.isOwn = false ∧
              e = .refused (d.refusal f) := by
  refine ⟨decode_attributed F exact w shape, ?matching, fun f h => ?causes,
    fun s m e => Session.response_fails⟩
  case matching =>
    unfold isMatch
    split
    · exact .inl ⟨true, rfl⟩
    · exact .inl ⟨false, rfl⟩
    · next f hf houtcome =>
      exact .inr ⟨f, rfl, (decode_attributed F true w shape).holds houtcome hf⟩
  case causes => exact ⟨h.kinds, fun hF hw => h.overflows hF hw⟩

section Meters

/-- A request whose result is a float. -/
def meter : Method := ⟨"meter/level", none, some ⟨.ofKind .float, .ofKind .integer⟩⟩

/-- An endpoint that has asked for a level. -/
def metering : Session :=
  { Session.start ⟨[]⟩ ⟨"meters", "1", [meter], false⟩ with
    outstanding := [⟨.number 1, ⟨.int 1, ⟨meter, .null, .null⟩, .sent, none, false⟩, 0, none⟩] }

/-- A response with a level of any size. -/
def level (n : Int) : Value := .object [("id", .int 1), ("result", .int n)]

theorem metering_overflows {n : Int} (large : Double.ofInt? n = none) :
    (metering.dispatch (level n)).1 = .failed (.refused (.fault .overflow)) := by
  have hdecode : decode ⟨[]⟩ false (.int n) (.ofKind .float) = ⟨[], .error .overflow⟩ := by
    simp [decode, Shape.ofKind, Primitive.accept, Value.integer?, large, Traced.of]
  have hresponse : (metering.registry.acceptResponse metering.family "meter/level"
      (level n)).outcome = .error (.fault .overflow) := by
    show (Traced.outcome (do
      let v ← ((decode ⟨[]⟩ false (.int n) (.ofKind .float)).under (.key "result")).mapError
        meter.refusal
      return (⟨meter, v, .null, .int n⟩ : Reply))) = _
    rw [hdecode]
    rfl
  have hrun : ((Action.handleResponse (level n)).run metering).1 =
      .error (.refused (.fault .overflow)) :=
    Action.handleResponse_unread (.number 1) rfl rfl rfl rfl hresponse rfl
  rw [Session.dispatch_identified rfl rfl (v := .int 1) rfl]
  split
  · next hok =>
    rw [hok] at hrun
    cases hrun
  · next e t herror =>
    rw [herror] at hrun
    cases hrun
    rfl

/-- A response with a level that no float is near to ends the loop. -/
theorem faults_have_causes_level :
    (metering.dispatch (level (10 ^ 400))).1 = .failed (.refused (.fault .overflow)) ∧
      ∃ o ∈ metering.outstanding, ∃ d replies part asked f,
        metering.registry.find? o.pending.request.method.name = some d ∧
          d.replies = some replies ∧ replies.Asks (level (10 ^ 400)) part asked ∧
            FaultAt metering.family false part asked f ∧ f.isOwn = false ∧
              EndpointError.refused (.fault .overflow) = .refused (d.refusal f) := by
  have large : Double.ofInt? (10 ^ 400) = none := by decide +kernel
  have hfails := metering_overflows large
  refine ⟨hfails, ?_⟩
  exact (faults_have_causes metering.family false (level (10 ^ 400)) (.ofKind .float)).2.2.2
    metering _ _ rfl rfl rfl hfails

/-- Matching an integer against a float fails, if no float is near to it. -/
theorem large_integer_undecided :
    TypeExpr.float.shape = .ok (.ofKind .float) ∧
      isMatch ⟨[]⟩ (.int (10 ^ 400)) (.ofKind .float) = .error .overflow ∧
      ∀ exact, (decode ⟨[]⟩ exact (.int (10 ^ 400)) (.ofKind .float)).outcome =
        .error .overflow := by
  have large : Double.ofInt? (10 ^ 400) = none := by decide +kernel
  generalize (10 ^ 400 : Int) = n at large ⊢
  have hdecode : ∀ exact, (decode ⟨[]⟩ exact (.int n) (.ofKind .float)).outcome =
      .error .overflow := by
    intro exact
    simp [decode, Shape.ofKind, Primitive.accept, Value.integer?, large, Traced.of]
  refine ⟨rfl, ?_, hdecode⟩
  unfold isMatch
  rw [hdecode]

end Meters

end EditorProtocol
