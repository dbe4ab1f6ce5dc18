import EditorProtocol.Proofs.Connection.Peer

/-!
What can be done at one end of a connection, in terms of all that is known of it. A message arrives
or is taken from the inbox, a caller sends its request or ends its call, a handler is called for the
request of a task, and its response is sent. Every act comes with the reasons that there are for it.
-/

namespace EditorProtocol

variable {R : Registry} {c : Caller} {r : IncomingRequest} {v w : Invocation} {m : Value}

/-! ### Callers and handlers -/

/-- A caller whose request may be served by the handlers of the other side. -/
def Caller.Fits (R : Registry) (handlers : List (String × Handler)) (c : Caller) : Prop :=
  ∃ name m, Method.nameOf c.method = .ok name ∧ R.find? name = some m ∧ m.Fits c.params ∧
    (Session.handlerOf handlers name).isSome = true

/-- A caller has sent a request, which is received as the given one. -/
structure Caller.Asks (R : Registry) (c : Caller) (r : IncomingRequest) : Prop where
  sent : c.sent = some r.id
  named : Method.nameOf c.method = .ok r.method
  built : ∃ e, (R.buildRequest Catalog.family r.method c.params).outcome = .ok e ∧
    r.params = e.payload

/-- Requests that callers have sent, no two of them with the same identity. -/
structure AskedBy (R : Registry) (sent : List Caller) (rs : List IncomingRequest) : Prop where
  distinct : (rs.map (·.id)).Nodup
  asked : ∀ r ∈ rs, ∃ c ∈ sent, c.Asks R r

namespace Invocation

/-- The call of a handler that keeps to its method, with the parameters of the request. -/
def IsProper (R : Registry) (v : Invocation) : Prop :=
  ∃ m replies x, R.getRequest v.request.method = .ok (m, replies) ∧
    (R.decodeParams Catalog.family v.request.method v.request.params).outcome = .ok v.params ∧
      v.behaviour.Ends x ∧ replies.Allows Catalog.family x

/-- A message is the response to the request of a handler, and tells what the handler ends with. -/
def AnsweredBy (R : Registry) (v : Invocation) (m : Value) : Prop :=
  ∃ (reply : Reply) (x : Except EndpointError Value), m = reply.message v.request.id.value ∧
    v.behaviour.Ends x ∧ Catalog.Tells R v.request.method x m

end Invocation

/-- A task that has not begun, one whose handler is on its way to its end, or one that has ended. -/
inductive Task.Stands (invoked : List Invocation) : Task → Prop
  | created (number : Nat) (r : IncomingRequest) : Stands invoked ⟨number, r, .created, false⟩
  | waiting {v : Invocation} {opened : Behaviour} {x : Except EndpointError Value}
      {signal : Option Signal} (number : Nat) (gate : String) (interrupted : Behaviour)
      (mem : v ∈ invoked) (ends : opened.Ends x) (same : v.behaviour.Ends x)
      (live : signal ≠ some .interrupted) :
      Stands invoked ⟨number, v.request, .waiting gate opened interrupted signal, false⟩
  | ended (number : Nat) (r : IncomingRequest) : Stands invoked ⟨number, r, .ended, false⟩

/-- How a call may have ended: its request could not be built, or a handler was called for the
request and the call ended with what the handler ended with. -/
inductive AccountedFor (R : Registry) (sent : List Caller) (invoked : List Invocation) :
    Caller × Event → Prop
  | refused {c : Caller} {name : String} {e : Refusal} (unsent : c.sent = none)
      (named : Method.nameOf c.method = .ok name)
      (refused : (R.buildRequest Catalog.family name c.params).outcome = .error e) :
      AccountedFor R sent invoked (c, .failed c.label (.refused e))
  | answered {c : Caller} {v : Invocation} {x : Except EndpointError Value} {e : Event}
      (mem : c ∈ sent) (called : v ∈ invoked) (id : c.sent = some v.request.id)
      (ends : v.behaviour.Ends x) (back : ComesBack Catalog.family c.label x e) :
      AccountedFor R sent invoked (c, e)

/-- The method and the parameters of the call of a handler. -/
def Event.handlerCall? : Event → Option (String × Value)
  | .handlerCalled method params => some (method, params)
  | _ => none

def Incoming.request? : Incoming → Option IncomingRequest
  | .message m => m.request? Catalog.family
  | .failure _ => none

theorem Behaviour.Ends.unique {b : Behaviour} {x y : Except EndpointError Value} (h : b.Ends x)
    (k : b.Ends y) : y = x := by
  induction h with
  | finish x =>
      cases k
      rfl
  | wait gate interrupted ends ih =>
      cases k with
      | wait _ _ ends' => exact ih ends'

theorem Task.Stands.mono {invoked invoked' : List Invocation} {t : Task} (h : t.Stands invoked)
    (sub : invoked ⊆ invoked') : t.Stands invoked' := by
  cases h with
  | created number r => exact .created number r
  | waiting number gate interrupted mem ends same live =>
      exact .waiting number gate interrupted (sub mem) ends same live
  | ended number r => exact .ended number r

theorem Task.Stands.roused {invoked : List Invocation} {t u : Task} (h : t.Stands invoked)
    (roused : t.Roused u) : u.Stands invoked := by
  cases roused with
  | same => exact h
  | opened waits =>
      cases h with
      | created number r => cases waits
      | waiting number gate interrupted mem ends same live =>
          injection waits with hgate hopened hinterrupted hsignal
          subst hgate hopened hinterrupted
          exact .waiting number gate interrupted mem ends same nofun
      | ended number r => cases waits

theorem AccountedFor.mono {sent sent' : List Caller} {invoked invoked' : List Invocation}
    {p : Caller × Event} (h : AccountedFor R sent invoked p) (hsent : sent ⊆ sent')
    (hinvoked : invoked ⊆ invoked') : AccountedFor R sent' invoked' p := by
  cases h with
  | refused unsent named refused => exact .refused unsent named refused
  | answered mem called id ends back => exact .answered (hsent mem) (hinvoked called) id ends back

theorem Caller.Fits.mono {handlers handlers' : List (String × Handler)} (h : c.Fits R handlers)
    (kept : ∀ name, (Session.handlerOf handlers name).isSome = true →
      (Session.handlerOf handlers' name).isSome = true) : c.Fits R handlers' := by
  obtain ⟨name, m, hname, hfound, hfits, hhandled⟩ := h
  exact ⟨name, m, hname, hfound, hfits, kept name hhandled⟩

namespace AskedBy

variable {sent sent' : List Caller} {rs qs : List IncomingRequest}

theorem subperm (h : AskedBy R sent rs) (hqs : qs.Subperm rs) : AskedBy R sent qs where
  distinct := by
    obtain ⟨ps, hperm, hsub⟩ := hqs
    exact (hperm.map _).nodup_iff.1 (h.distinct.sublist (hsub.map _))
  asked r hr := h.asked r (hqs.subset hr)

theorem snoc (h : AskedBy R sent rs) (hsent : sent ⊆ sent') (hc : c ∈ sent') (asks : c.Asks R r)
    (fresh : ∀ d ∈ sent, d.sent ≠ some r.id) : AskedBy R sent' (rs ++ [r]) where
  distinct := by
    rw [List.map_append, List.nodup_append]
    refine ⟨h.distinct, List.nodup_singleton _, ?_⟩
    rintro id hid _ (_ | ⟨_, ⟨⟩⟩) rfl
    obtain ⟨q, hq, hqid⟩ := List.mem_map.1 hid
    obtain ⟨d, hd, hasks⟩ := h.asked q hq
    exact fresh d hd (hasks.sent.trans (congrArg some hqid))
  asked q hq := by
    rcases List.mem_append.1 hq with hq | hq
    · obtain ⟨d, hd, hasks⟩ := h.asked q hq
      exact ⟨d, hsent hd, hasks⟩
    · cases List.mem_singleton.1 hq
      exact ⟨c, hc, asks⟩

end AskedBy

/-! ### What can be done at one end -/

/-- All that is known of an endpoint at one end of a connection. -/
structure View extends Desk where
  heard : Nat
  sent : List Caller
  invoked : List Invocation
  ended : List (Caller × Event)

/-- What is known of an endpoint when it has come to a desk. -/
def Peer.viewAt (a : Peer) (D : Desk) : View := ⟨D, a.heard, a.sent, a.invoked, a.ended⟩

def Peer.view (a : Peer) : View := a.viewAt a.session.desk

/-- What can be done at one end of a connection while the other end stays as it is. -/
inductive Act (R : Registry) (y x : View) : View → Prop
  | heard {m : Value} (next : y.outbox[x.heard]? = some m) :
      Act R y x { x with heard := x.heard + 1, inbox := x.inbox ++ [.message m] }
  | handled {name : String} {h : Handler}
      (keeps : ∀ m replies, R.getRequest name = .ok (m, replies) → h.KeepsTo m replies) :
      Act R y x { x with handlers := Session.withHandler x.handlers name h }
  | called {c : Caller} (unsent : c.sent = none) (fits : c.Fits R y.handlers) :
      Act R y x { x with callers := x.callers ++ [c], nextNumber := x.nextNumber + 1 }
  | refused {c : Caller} {name : String} {e : Refusal} (unsent : c.sent = none)
      (named : Method.nameOf c.method = .ok name)
      (refused : (R.buildRequest Catalog.family name c.params).outcome = .error e) :
      Act R y x { x with
        callers := x.callers.filter (·.number != c.number)
        events := x.events ++ [.failed c.label (.refused e)]
        ended := x.ended ++ [(c, .failed c.label (.refused e))] }
  | sent {c : Caller} {name : String} {e : Request} (mem : c ∈ x.callers)
      (named : Method.nameOf c.method = .ok name)
      (built : (R.buildRequest Catalog.family name c.params).outcome = .ok e) :
      Act R y x { x with
        nextId := x.nextId + 1
        outstanding := x.outstanding ++ [e.opening R x.nextId c.number]
        callers := x.callers.map fun d =>
          if d.number == c.number then { c with sent := some (.number x.nextId) } else d
        outbox := x.outbox ++ [e.message (RequestId.number x.nextId).value]
        sent := x.sent ++ [{ c with sent := some (.number x.nextId) }] }
  | taken {c : Caller} {o : Outstanding} {z : Except EndpointError Reply}
      (mem : c ∈ x.callers) (known : o ∈ x.outstanding) (sent : c.sent = some o.id)
      (outcome : o.outcome = some z) :
      Act R y x { x with
        callers := x.callers.filter (·.number != c.number)
        outstanding := x.outstanding.filter fun p => c.sent != some p.id
        events := x.events ++ [Session.outcomeEvent c z]
        ended := x.ended ++ [(c, Session.outcomeEvent c z)] }
  | accepted {m : Value} {r : IncomingRequest} {rest : List Incoming}
      (inbox : x.inbox = .message m :: rest) (request : m.request? Catalog.family = some r) :
      Act R y x { x with
        inbox := rest
        tasks := x.tasks ++ [⟨x.nextNumber, r, .created, false⟩]
        nextNumber := x.nextNumber + 1 }
  | passed {i : Incoming} {rest : List Incoming} (inbox : x.inbox = i :: rest) :
      Act R y x { x with inbox := rest }
  | settled {o : Outstanding} {p : PendingRequest} {z : Except EndpointError Reply}
      {v : Invocation} {u : Except EndpointError Value} (known : o ∈ x.outstanding)
      (request : p.request = o.pending.request) (mem : v ∈ y.invoked) (id : v.request.id = o.id)
      (ends : v.behaviour.Ends u)
      (back : ∀ c : Caller, ComesBack Catalog.family c.label u (Session.outcomeEvent c z)) :
      Act R y x { x with outstanding := x.outstanding.map (Ledger.settled o p z) }
  | retasked {ts : List Task} (stands : ∀ t ∈ ts, t.Stands x.invoked)
      (unbegun : (unbegun ts).Sublist (unbegun x.tasks)) : Act R y x { x with tasks := ts }
  | begun {v : Invocation} {ts : List Task} (proper : v.IsProper R)
      (stands : ∀ t ∈ ts, t ∈ x.tasks ∨ t.Stands (x.invoked ++ [v]))
      (unbegun : (v.request :: unbegun ts).Subperm (unbegun x.tasks)) :
      Act R y x { x with
        tasks := ts
        events := x.events ++ [.handlerCalled v.request.method v.params]
        invoked := x.invoked ++ [v] }
  | answered {v : Invocation} {m : Value} (mem : v ∈ x.invoked)
      (answers : v.AnsweredBy R m) : Act R y x { x with outbox := x.outbox ++ [m] }

end EditorProtocol
