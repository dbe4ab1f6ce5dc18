import EditorProtocol.Proofs.Catalog.Exchange

/-!
Two endpoints that are joined by channels. What one side sends arrives at the other side, everything
once and in the order in which it was sent; nothing else arrives. Both sides make calls, and all
messages, turns and gates may come in any order. Beside each endpoint stands what it has done so
far: the requests that its callers have sent, the handlers that it has called, and how its calls
have ended.
-/

namespace EditorProtocol

/-- The call of a handler that serves a request. -/
structure Invocation where
  request : IncomingRequest
  params : Value
  /-- What the handler answers the parameters with. -/
  behaviour : Behaviour

namespace Session

/-- The call of a handler that is made for a request. -/
def invocationFor? (s : Session) (r : IncomingRequest) : Option Invocation :=
  match s.registry.find? r.method, handlerOf s.requestHandlers r.method,
    (s.registry.decodeParams s.family r.method r.params).outcome with
  | some m, some h, .ok params => if m.isRequest then some ⟨r, params, h params⟩ else none
  | _, _, _ => none

/-- The call of a handler in the turn of a job. -/
def invocation? (s : Session) : Job → Option Invocation
  | .serve n =>
    match s.task? n with
    | some ⟨_, r, .created, false⟩ => s.invocationFor? r
    | _ => none
  | _ => none

/-- The caller that sends its request in the turn of a job, as it waits from then on. -/
def sending? (s : Session) : Job → Option Caller
  | .call n =>
    match s.caller? n with
    | some ⟨_, _, _, _, none⟩ => ((s.continueCall n).caller? n).filter (·.sent.isSome)
    | _ => none
  | _ => none

/-- The caller whose call ends in the turn of a job, and the end of the call. -/
def completion? (s : Session) : Job → Option (Caller × Event)
  | .call n => do return (← s.caller? n, ← s.ending? n)
  | _ => none

end Session

/-- An endpoint at one end of a connection. -/
structure Peer where
  session : Session
  /-- The number of messages from the other side that have arrived. -/
  heard : Nat
  /-- The callers that have sent their requests. -/
  sent : List Caller
  invoked : List Invocation
  /-- The calls that have ended. -/
  ended : List (Caller × Event)

namespace Peer

/-- An endpoint to which nothing has happened. -/
def start (R : Registry) : Peer := ⟨.start Catalog.family R, 0, [], [], []⟩

/-- Something happens to an endpoint that is not a turn. -/
def after (a : Peer) (h : Happening) : Peer := { a with session := a.session.after h }

/-- A job is done. -/
def perform (a : Peer) (j : Job) : Peer where
  session := a.session.perform j
  heard := a.heard
  sent := a.sent ++ (a.session.sending? j).toList
  invoked := a.invoked ++ (a.session.invocation? j).toList
  ended := a.ended ++ (a.session.completion? j).toList

/-- The job at a place of the queue has its turn. -/
def turn (a : Peer) (place : Nat) : Peer :=
  match a.session.ready[place]? with
  | none => a
  | some j =>
    { a with session := { a.session with ready := a.session.ready.eraseIdx place } }.perform j

theorem session_turn (a : Peer) (place : Nat) :
    (a.turn place).session = a.session.after (.turn place) := by
  show (a.turn place).session = a.session.turn place
  unfold turn Session.turn
  cases a.session.ready[place]? with
  | none => rfl
  | some j => rfl

/-- What may happen at one end of a connection: the next message of the other side arrives, a job
has its turn, a gate is opened, a handler that keeps to its method is set up, or there is a call of
a method for which the other side has a handler. -/
inductive Step (R : Registry) (b a : Peer) : Peer → Prop
  | hears {m : Value} (next : b.session.outbox[a.heard]? = some m) :
      Step R b a { a.after (.arrival (.message m)) with heard := a.heard + 1 }
  | turn (place : Nat) : Step R b a (a.turn place)
  | opens (gate : String) : Step R b a (a.after (.openGate gate))
  | handles {method : Value} {h : Handler}
      (keeps : ∀ name m replies, Method.nameOf method = .ok name →
        R.getRequest name = .ok (m, replies) → h.KeepsTo m replies) :
      Step R b a (a.after (.handleRequests method h))
  | calls (label : String) {method params : Value} {name : String} {m : Method}
      (named : Method.nameOf method = .ok name) (found : R.find? name = some m)
      (handled : (Session.handlerOf b.session.requestHandlers name).isSome = true)
      (fits : m.Fits params) : Step R b a (a.after (.call label method params))

end Peer

/-- Two endpoints that are joined by channels. -/
structure Connection where
  left : Peer
  right : Peer

namespace Connection

inductive Step (R : Registry) : Connection → Connection → Prop
  | left {a a' b : Peer} (step : Peer.Step R b a a') : Step R ⟨a, b⟩ ⟨a', b⟩
  | right {a b b' : Peer} (step : Peer.Step R a b b') : Step R ⟨a, b⟩ ⟨a, b'⟩

/-- The connections that two endpoints over a registry may come to. -/
inductive Talk (R : Registry) : Connection → Prop
  | start : Talk R ⟨.start R, .start R⟩
  | step {c d : Connection} (talk : Talk R c) (step : Step R c d) : Talk R d

end Connection

/-! ### Lives -/

/-- Whatever happens at one end of a connection is a happening in the life of its endpoint. -/
theorem Peer.Step.exists_after {R : Registry} {a a' b : Peer} (h : Peer.Step R b a a') :
    ∃ happening, a'.session = a.session.after happening := by
  cases h with
  | hears next => exact ⟨.arrival _, rfl⟩
  | turn place => exact ⟨.turn place, a.session_turn place⟩
  | opens gate => exact ⟨.openGate gate, rfl⟩
  | handles keeps => exact ⟨.handleRequests _ _, rfl⟩
  | calls label named found handled fits => exact ⟨.call label _ _, rfl⟩

/-- The endpoints of a connection have lives like any other ones. -/
theorem Connection.Talk.lives {R : Registry} {c : Connection} (talk : Talk R c) :
    (∃ hs, c.left.session = (Session.start Catalog.family R).life hs) ∧
      ∃ hs, c.right.session = (Session.start Catalog.family R).life hs := by
  have hgoes : ∀ {a a' b : Peer}, Peer.Step R b a a' →
      (∃ hs, a.session = (Session.start Catalog.family R).life hs) →
        ∃ hs, a'.session = (Session.start Catalog.family R).life hs := by
    rintro a a' b step ⟨hs, hlife⟩
    obtain ⟨happening, hafter⟩ := step.exists_after
    refine ⟨hs ++ [happening], ?_⟩
    rw [hafter, hlife, Session.life, Session.life, List.foldl_append]
    rfl
  induction talk with
  | start => exact ⟨⟨[], rfl⟩, ⟨[], rfl⟩⟩
  | step talk step ih =>
      cases step with
      | left step => exact ⟨hgoes step ih.1, ih.2⟩
      | right step => exact ⟨ih.1, hgoes step ih.2⟩

end EditorProtocol
