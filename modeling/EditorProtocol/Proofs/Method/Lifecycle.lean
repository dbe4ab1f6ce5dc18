import EditorProtocol.Method.Lifecycle
import EditorProtocol.Proofs.Codec.Soundness
import EditorProtocol.Proofs.Method.Params

/-!
The life of an outgoing request. One that waits for its reply can take any reply that the registry
accepts for its method, and it can be cancelled. Under calls in any order, whether they succeed or
not, a request has a reply exactly if it is completed or failed, and its end is never left. A call
is also told as the reads and writes that it is made of, where a write would stay behind if the
call failed after it; no call writes before its last check has passed.
-/

namespace EditorProtocol

variable {F : Family} {R : Registry} {m : Method} {replies : Replies} {name : String} {w : Value}
  {reply : Reply} {p : PendingRequest}

/-! ### Accepted responses -/

namespace Registry

/-- A reply that is accepted is one of the method that was asked for. -/
theorem method_of_acceptResponse (h : (R.acceptResponse F name w).outcome = .ok reply) :
    R.find? name = some reply.method := by
  unfold acceptResponse at h
  rw [Traced.outcome_bind, Traced.outcome_of, bind_eq_ok] at h
  obtain ⟨⟨m, replies⟩, hm, h⟩ := h
  have hfind := (getRequest_ok_iff.1 hm).1
  dsimp only at h
  split at h
  · cases h
  split at h
  · rw [Traced.outcome_bind, bind_eq_ok] at h
    obtain ⟨v, _, h⟩ := h
    cases h
    exact hfind
  · rw [Traced.outcome_bind, bind_eq_ok] at h
    obtain ⟨v, _, h⟩ := h
    cases h
    exact hfind
  · cases h

/-- Whether a response is answered with a reply or with an error about its shape. -/
def Reads (r : Except Refusal Reply) : Prop :=
  (∃ reply, r = .ok reply) ∨ (∃ m, r = .error (.fault (.mismatch m))) ∨
    ∃ m, r = .error (.violation m)

end Registry

/-! ### States -/

namespace PendingRequest

variable {q : PendingRequest}

theorem markAwaiting_start (id : Value) (r : Request) (R : Registry) :
    (start id r R).markAwaiting =
      .ok ⟨id, r, .awaitingReply, none, R.contains Catalog.cancelName⟩ :=
  rfl

/-- The last three states can be entered from the second one only. -/
theorem mem_successors_iff {s t : RequestState} :
    t ∈ s.successors ↔
      s = .sent ∧ t = .awaitingReply ∨
        s = .awaitingReply ∧ (t = .completed ∨ t = .failed ∨ t = .cancelled) := by
  cases s <;> simp [RequestState.successors]

theorem moveTo_ok_iff {target : RequestState} :
    p.moveTo target = .ok q ↔ target ∈ p.state.successors ∧ q = { p with state := target } := by
  unfold moveTo
  split <;> simp_all [eq_comm]

theorem resolve_ok_iff :
    p.resolve reply = .ok q ↔
      reply.method.same p.request.method = true ∧ p.state = .awaitingReply ∧
        q = { p with
          state := if reply.failed then .failed else .completed, reply := some reply } := by
  unfold resolve
  cases reply.method.same p.request.method with
  | false => simp
  | true =>
      simp only [Bool.not_true, Bool.false_eq_true, if_false, bind_eq_ok, moveTo_ok_iff,
        mem_successors_iff, true_and]
      constructor
      · rintro ⟨r, ⟨hstate, rfl⟩, hq⟩
        exact ⟨by cases hfailed : reply.failed <;> simp_all, (Except.ok.inj hq).symm⟩
      · rintro ⟨hwaits, rfl⟩
        exact ⟨_, ⟨by cases hfailed : reply.failed <;> simp [hwaits], rfl⟩, rfl⟩

theorem cancel_ok_iff :
    p.cancel = .ok q ↔
      p.cancellable = true ∧ p.state = .awaitingReply ∧ q = { p with state := .cancelled } := by
  unfold cancel
  split <;> simp_all [moveTo_ok_iff, mem_successors_iff]

theorem request_of_resolve (h : p.resolve reply = .ok q) : q.request = p.request := by
  obtain ⟨_, _, rfl⟩ := resolve_ok_iff.1 h
  rfl

theorem request_of_cancel (h : p.cancel = .ok q) : q.request = p.request := by
  obtain ⟨_, _, rfl⟩ := cancel_ok_iff.1 h
  rfl

theorem resolve_of_awaiting (hstate : p.state = .awaitingReply)
    (hsame : reply.method.same p.request.method = true) :
    ∃ q, p.resolve reply = .ok q ∧ q.request = p.request :=
  ⟨_, resolve_ok_iff.2 ⟨hsame, hstate, rfl⟩, rfl⟩

theorem cancel_of_awaiting (hstate : p.state = .awaitingReply)
    (hcancellable : p.cancellable = true) :
    ∃ q, p.cancel = .ok q ∧ q.request = p.request :=
  ⟨_, cancel_ok_iff.2 ⟨hcancellable, hstate, rfl⟩, rfl⟩

end PendingRequest

/-! ### Calls -/

/-- A call on an outgoing request. -/
inductive RequestCall where
  | markAwaiting
  | resolve (reply : Reply)
  | cancel

/-- Reads and writes of a request. What was written stays, whatever fails afterwards. -/
abbrev RequestEdit (α : Type) := ExceptT TransitionError (StateM PendingRequest) α

namespace RequestEdit

/-- Enters a state that may follow the present one. -/
def enter (target : RequestState) : RequestEdit Unit := do
  let p ← get
  if p.state.successors.contains target then set { p with state := target }
  else throw (.notAllowed p.id p.request.method.name p.state target)

/-- A call as reads and writes. The state is written before the reply that it is about. -/
def ofCall : RequestCall → RequestEdit Unit
  | .markAwaiting => enter .awaitingReply
  | .resolve reply => do
    let p ← get
    if reply.method.same p.request.method then
      enter (if reply.failed then .failed else .completed)
      modify fun q => { q with reply := some reply }
    else throw (.otherMethod reply.method.name p.id p.request.method.name)
  | .cancel => do
    let p ← get
    if p.cancellable then enter .cancelled else throw (.notCancellable p.id)

theorem run_bind {α β : Type} (x : RequestEdit α) (f : α → RequestEdit β) (p : PendingRequest) :
    (x >>= f).run p =
      match x.run p with
      | (.ok a, q) => (f a).run q
      | (.error e, q) => (.error e, q) := by
  show (match x.run p with | (r, q) => (ExceptT.bindCont f r).run q) = _
  rcases x.run p with ⟨_ | a, q⟩ <;> rfl

end RequestEdit

namespace PendingRequest

variable {request : Request} {q : PendingRequest} {c : RequestCall}

/-- The request that a call makes of a request, or why the call fails. -/
def perform (p : PendingRequest) : RequestCall → Except TransitionError PendingRequest
  | .markAwaiting => p.markAwaiting
  | .resolve reply => p.resolve reply
  | .cancel => p.cancel

/-- A request after calls, each of which may have failed. -/
def after (p : PendingRequest) (cs : List RequestCall) : PendingRequest :=
  cs.foldl (fun p c => ((RequestEdit.ofCall c).run p).2) p

theorem after_append (p : PendingRequest) (cs ds : List RequestCall) :
    p.after (cs ++ ds) = (p.after cs).after ds :=
  List.foldl_append

/-! ### What a call writes -/

/-- A result of a call in place: the request that was made, or the failure and the request as it
was. -/
def keeping (p : PendingRequest) :
    Except TransitionError PendingRequest → Except TransitionError Unit × PendingRequest
  | .ok q => (.ok (), q)
  | .error e => (.error e, p)

theorem keeping_eq_ok {r : Except TransitionError PendingRequest} :
    p.keeping r = (.ok (), q) ↔ r = .ok q := by
  cases r <;> simp [keeping]

theorem keeping_eq_error {r : Except TransitionError PendingRequest} {e : TransitionError} :
    p.keeping r = (.error e, q) ↔ r = .error e ∧ q = p := by
  cases r <;> simp [keeping, eq_comm]

theorem run_enter (p : PendingRequest) (target : RequestState) :
    (RequestEdit.enter target).run p = p.keeping (p.moveTo target) := by
  show (if p.state.successors.contains target then _ else _ : RequestEdit Unit).run p = _
  unfold moveTo
  split <;> rfl

/-- A call in place leaves the request that it makes, or fails and leaves the request as it was. -/
theorem run_ofCall (p : PendingRequest) (c : RequestCall) :
    (RequestEdit.ofCall c).run p = p.keeping (p.perform c) := by
  cases c with
  | markAwaiting => exact run_enter p .awaitingReply
  | resolve reply =>
      show (if reply.method.same p.request.method then _ else _ : RequestEdit Unit).run p =
        p.keeping (p.resolve reply)
      unfold resolve
      cases reply.method.same p.request.method with
      | false => rfl
      | true =>
          -- The reply is written after the state, and only if the state could be entered.
          simp only [if_true, RequestEdit.run_bind, run_enter, Bool.not_true, Bool.false_eq_true,
            if_false]
          cases p.moveTo (if reply.failed then .failed else .completed) <;> rfl
  | cancel =>
      show (if p.cancellable then _ else _ : RequestEdit Unit).run p = p.keeping p.cancel
      unfold cancel
      split
      · exact run_enter p .cancelled
      · rfl

/-! ### Steps -/

/-- What the calls do that succeed. -/
inductive Step : PendingRequest → RequestCall → PendingRequest → Prop
  | awaiting {p : PendingRequest} (sent : p.state = .sent) :
      Step p .markAwaiting { p with state := .awaitingReply }
  | resolved {p : PendingRequest} {reply : Reply} (waits : p.state = .awaitingReply)
      (own : reply.method.same p.request.method = true) :
      Step p (.resolve reply)
        { p with state := if reply.failed then .failed else .completed, reply := some reply }
  | cancelled {p : PendingRequest} (waits : p.state = .awaitingReply)
      (cancellable : p.cancellable = true) : Step p .cancel { p with state := .cancelled }

/-- A call succeeds exactly as a step. -/
theorem perform_ok_iff : p.perform c = .ok q ↔ p.Step c q := by
  constructor
  · intro h
    cases c with
    | markAwaiting =>
        obtain ⟨hstate, rfl⟩ := moveTo_ok_iff.1 h
        exact .awaiting (by simpa [mem_successors_iff] using hstate)
    | resolve reply =>
        obtain ⟨hown, hwaits, rfl⟩ := resolve_ok_iff.1 h
        exact .resolved hwaits hown
    | cancel =>
        obtain ⟨hcancellable, hwaits, rfl⟩ := cancel_ok_iff.1 h
        exact .cancelled hwaits hcancellable
  · intro h
    cases h with
    | awaiting sent => exact moveTo_ok_iff.2 ⟨by simp [mem_successors_iff, sent], rfl⟩
    | resolved waits own => exact resolve_ok_iff.2 ⟨own, waits, rfl⟩
    | cancelled waits cancellable => exact cancel_ok_iff.2 ⟨cancellable, waits, rfl⟩

/-! ### The invariant -/

/-- What holds of a request at any time of its life. -/
structure Sound (R : Registry) (request : Request) (p : PendingRequest) : Prop where
  request_eq : p.request = request
  cancellable_eq : p.cancellable = R.contains Catalog.cancelName
  replied : p.reply.isSome = true ↔ p.state = .completed ∨ p.state = .failed
  own : ∀ reply, p.reply = some reply → reply.method.same request.method = true
  failed : ∀ reply, p.reply = some reply → (p.state = .failed ↔ reply.failed = true)
  cancelled : p.state = .cancelled → R.contains Catalog.cancelName = true

theorem sound_start (id : Value) (request : Request) (R : Registry) :
    (start id request R).Sound R request := by
  constructor <;> simp [start]

/-- Every step keeps the invariant. -/
theorem Sound.step (hp : p.Sound R request) (h : p.Step c q) : q.Sound R request := by
  obtain ⟨hrequest, hcancellable, hreplied, -, -, -⟩ := hp
  cases h with
  | awaiting sent =>
      -- Before the request waits it has no reply.
      have hnone : p.reply = none := by simpa [sent] using hreplied
      constructor <;> simp_all
  | @resolved reply waits own =>
      constructor <;> cases hfailed : reply.failed <;> simp_all
  | cancelled waits cancellable =>
      have hnone : p.reply = none := by simpa [waits] using hreplied
      constructor <;> simp_all

/-- A call leaves the request that it makes, or the request as it was. -/
theorem after_cons (p : PendingRequest) (c : RequestCall) (cs : List RequestCall) :
    p.after (c :: cs) = (p.keeping (p.perform c)).2.after cs := by
  rw [← run_ofCall]
  rfl

theorem Sound.after (hp : p.Sound R request) (cs : List RequestCall) :
    (p.after cs).Sound R request := by
  induction cs generalizing p with
  | nil => exact hp
  | cons c rest ih =>
      rw [after_cons]
      cases h : p.perform c with
      | ok q => exact ih (hp.step (perform_ok_iff.1 h))
      | error e => exact ih hp

/-! ### The end -/

theorem isDone_iff :
    p.isDone = true ↔ p.state = .completed ∨ p.state = .failed ∨ p.state = .cancelled := by
  unfold isDone
  cases p.state <;> simp [RequestState.successors]

/-- No step leads out of an end. -/
theorem not_step_of_isDone (h : p.isDone = true) : ¬p.Step c q := by
  rintro (hsent | ⟨hwaits, _⟩ | ⟨hwaits, _⟩) <;> simp_all [isDone_iff]

theorem after_of_isDone (h : p.isDone = true) (cs : List RequestCall) : p.after cs = p := by
  induction cs with
  | nil => rfl
  | cons c rest ih =>
      rw [after_cons]
      cases hc : p.perform c with
      | ok q => exact absurd (perform_ok_iff.1 hc) (not_step_of_isDone h)
      | error e => exact ih

/-- After any calls on a request that was sent, it has a reply exactly if it is completed or
failed; the reply is one to its own method and failed exactly if the request is; and the request is
cancelled only if there was a way to say so when it was sent. The next call succeeds exactly as a
step or fails and leaves the request as it was, and no calls change a request at its end. -/
theorem settles_once (id : Value) (request : Request) (R : Registry) (cs : List RequestCall) :
    ((start id request R).after cs).Sound R request ∧
      (∀ c q, (RequestEdit.ofCall c).run ((start id request R).after cs) = (.ok (), q) ↔
        ((start id request R).after cs).Step c q) ∧
      (∀ c e q, (RequestEdit.ofCall c).run ((start id request R).after cs) = (.error e, q) →
        ((start id request R).after cs).perform c = .error e ∧
          q = (start id request R).after cs) ∧
      (((start id request R).after cs).state ∈
          [RequestState.completed, RequestState.failed, RequestState.cancelled] →
        ∀ ds, (start id request R).after (cs ++ ds) = (start id request R).after cs) := by
  refine ⟨(sound_start id request R).after cs, fun c q => ?_, fun c e q h => ?_, fun h ds => ?_⟩
  · rw [run_ofCall]
    exact keeping_eq_ok.trans perform_ok_iff
  · rw [run_ofCall] at h
    exact keeping_eq_error.1 h
  · rw [after_append]
    exact after_of_isDone (isDone_iff.2 (by simpa using h)) ds

end PendingRequest

end EditorProtocol
