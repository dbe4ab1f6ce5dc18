import EditorProtocol.Endpoint.Receiving

/-!
The moves of an endpoint. Whatever happens to it comes down to a few things that it does with the
requests that it sent, which its ledger keeps, and with those that it received, which its docket
keeps; all else leaves both as they are. A path is a row of moves with what is done in each.
-/

namespace EditorProtocol

/-! ### What is kept about requests -/

/-- How far a task has come, apart from what it waits for. -/
inductive Stage where
  | created
  | begun
  | ended
deriving DecidableEq, Repr

def Progress.stage : Progress → Stage
  | .created => .created
  | .waiting .. => .begun
  | .ended => .ended

/-- A task as the other side knows it: its request and how far it has come. -/
structure Errand where
  number : Nat
  request : IncomingRequest
  stage : Stage

def Task.errand (t : Task) : Errand := ⟨t.number, t.request, t.progress.stage⟩

/-- The caller whose turn a job is. -/
def Job.caller? : Job → Option Nat
  | .call n => some n
  | _ => none

/-- The task that a job clears up after. -/
def Job.cleared? : Job → Option Nat
  | .clear n _ => some n
  | _ => none

/-- Whether an event is the end of a call. -/
def Event.isEnd : Event → Bool
  | .answered .. | .failed .. => true
  | .handlerCalled .. | .handlerInterrupted .. => false

/-- A response is a message without a method. -/
def Value.isResponse (m : Value) : Bool := (m.at? "method").isNone

/-- What stands around all requests. -/
structure Setting where
  family : Family
  registry : Registry
  sendFailure : Option TransportFailure

/-- What is kept about the requests that were sent, and the ends of their calls so far. -/
structure Ledger where
  nextId : Nat
  outstanding : List Outstanding
  cancelled : List RequestId
  callers : List Caller
  /-- The callers that are able to go on. -/
  due : List Nat
  ends : List Event
  nextNumber : Nat

/-- What is kept about the requests that were received, and the responses so far. -/
structure Docket where
  takenBack : List RequestId
  taskOf : List (RequestId × Nat)
  /-- The task of a number. -/
  errand? : Nat → Option Errand
  /-- The tasks that are cleared up after. -/
  clearing : List Nat
  responses : List Value
  nextNumber : Nat

namespace Session

def setting (s : Session) : Setting := ⟨s.family, s.registry, s.sendFailure⟩

def ledger (s : Session) : Ledger where
  nextId := s.nextId
  outstanding := s.outstanding
  cancelled := s.cancelledOutgoing
  callers := s.callers
  due := s.ready.filterMap Job.caller?
  ends := s.events.filter Event.isEnd
  nextNumber := s.nextNumber

def docket (s : Session) : Docket where
  takenBack := s.cancelledIncoming
  taskOf := s.taskOf
  errand? n := (s.task? n).map Task.errand
  clearing := s.ready.filterMap Job.cleared?
  responses := s.outbox.filter Value.isResponse
  nextNumber := s.nextNumber

/-- Two sessions that keep the same about all requests. -/
structure Agrees (s t : Session) : Prop where
  setting : t.setting = s.setting
  ledger : t.ledger = s.ledger
  docket : t.docket = s.docket

/-- The event that the turn of a caller ends its call with, if it does. -/
def ending? (s : Session) (number : Nat) : Option Event := do
  let c ← s.caller? number
  match c.sent with
  | none =>
    match ((Action.sendRequest c).run s).1 with
    | .ok () => none
    | .error e => some (.failed c.label e)
  | some id => (((s.outstanding? id).bind (·.outcome)).map (outcomeEvent c))

/-- A caller whose request is sent goes on to wait. -/
theorem continueCall_of_run {s u : Session} {n : Nat} {c : Caller} (found : s.caller? n = some c)
    (unsent : c.sent = none) (hrun : (Action.sendRequest c).run s = (.ok (), u)) :
    s.ending? n = none ∧ s.continueCall n = u := by
  unfold ending? continueCall
  rw [found, Option.bind_eq_bind, Option.bind_some]
  dsimp only
  rw [unsent]
  dsimp only
  rw [hrun]
  exact ⟨rfl, rfl⟩

end Session

/-! ### Moves -/

/-- What a task ends with after it has begun, or with which it refuses to begin. -/
inductive Conclusion where
  | returned (v : Value)
  | raised (e : EndpointError)
  | gaveUp
  | refused (code : Int) (message : String)

/-- The last thing that a task does. -/
def Conclusion.action (r : IncomingRequest) : Conclusion → Action Unit
  | .returned v => Action.serveResult r v
  | .raised e => Action.serveFailure r e
  | .gaveUp => Action.serveInterruption r
  | .refused code message => Action.serveError r ⟨code, message, .null⟩

/-- What is done in a move. -/
inductive Deed where
  /-- Nothing about requests. -/
  | aside
  | transport (failure : Option TransportFailure)
  /-- A new caller. -/
  | called
  /-- The turn of a caller, which may be the end of its call. -/
  | resumed (caller : Nat) (ending : Option Event)
  /-- A response arrives. -/
  | response (m : Value)
  /-- A request is cancelled by its sender. -/
  | cancellation (id : Value)
  /-- The loop ends. -/
  | closing
  /-- A message is accepted as a request, which gets a task. -/
  | accepted (m : Value) (task : Nat) (r : IncomingRequest)
  /-- The other side takes a request back. -/
  | takenBack (params : Value)
  /-- A task waits. -/
  | paused (task : Nat)
  /-- A task ends, and sends its answers. -/
  | concluded (task : Nat) (c : Conclusion) (answers : List Value)
  /-- A task ends without having begun. -/
  | quit (task : Nat)
  | cleared (task : Nat)

/-- The setting after a deed; only the transport changes. -/
def Setting.after (S : Setting) : Deed → Setting
  | .transport failure => { S with sendFailure := failure }
  | _ => S

/-- Whether a deed is the end of a task that has something to answer. -/
def Deed.isConclusion : Deed → Bool
  | .concluded .. => true
  | _ => false

/-- Whether a deed makes a task, or changes how far one has come. -/
def Deed.isWork : Deed → Bool
  | .accepted .. | .paused _ | .concluded .. | .quit _ | .cleared _ => true
  | _ => false

/-- A message that is accepted as a request: it has a method and an identity, and is a valid record
of a request. -/
structure Value.Requests (F : Family) (m : Value) (r : IncomingRequest) : Prop where
  method : m.has "method" = .ok true
  identity : m.has "id" = .ok true
  valid : ∃ v, Catalog.requestMessage.validate F m = .ok v ∧ r = .ofRecord v

namespace Session

/-- One move, with what is done in it. -/
inductive Move : Session → Deed → Session → Prop
  | aside {s t : Session} (h : s.Agrees t) : Move s .aside t
  | transport (s : Session) (failure : Option TransportFailure) :
      Move s (.transport failure) { s with sendFailure := failure }
  | called (s : Session) (label : String) (method params : Value) :
      Move s .called (s.call label method params)
  | resumed {s : Session} {before after : List Job} {n : Nat}
      (job : s.ready = before ++ .call n :: after) :
      Move s (.resumed n ({ s with ready := before ++ after }.ending? n))
        ({ s with ready := before ++ after }.continueCall n)
  | response (s : Session) (m : Value) :
      Move s (.response m) ((Action.handleResponse m).run s).2
  | cancellation (s : Session) (id : Value) :
      Move s (.cancellation id) ((Action.cancelRequest id).run s).2
  | closing (s : Session) (failure : Option EndpointError) : Move s .closing (s.finish failure)
  | accepted {s : Session} {m : Value} {r : IncomingRequest} (requests : m.Requests s.family r) :
      Move s (.accepted m s.nextNumber r) (s.accept r)
  | takenBack (s : Session) (params : Value) :
      Move s (.takenBack params) (Action.acceptNotification.takeBack params s)
  | paused {s : Session} {t : Task} (found : s.task? t.number = some t)
      (live : t.progress.stage ≠ .ended) (cancelled : Bool) (gate : String)
      (opened interrupted : Behaviour) :
      Move s (.paused t.number)
        (s.afterStop { t with cancelled := cancelled } (.waiting gate opened interrupted))
  | concluded {s : Session} {t : Task} (found : s.task? t.number = some t)
      (live : t.progress.stage ≠ .ended) (c : Conclusion) {answers : List Value}
      (sent : (s.endTaskWith t (c.action t.request)).outbox = s.outbox ++ answers) :
      Move s (.concluded t.number c answers) (s.endTaskWith t (c.action t.request))
  | quit {s : Session} {t : Task} (found : s.task? t.number = some t)
      (idle : t.progress.stage = .created) (failure : Option EndpointError) :
      Move s (.quit t.number) (s.endTask t failure)
  | cleared {s : Session} {before after : List Job} {n : Nat} {failure : Option EndpointError}
      (job : s.ready = before ++ .clear n failure :: after) :
      Move s (.cleared n) ({ s with ready := before ++ after }.clear n failure)

/-- A row of moves, with what is done in them. -/
inductive Path : Session → List Deed → Session → Prop
  | rest (s : Session) : Path s [] s
  | move {s t u : Session} {d : Deed} {ds : List Deed} (first : Move s d t) (more : Path t ds u) :
      Path s (d :: ds) u

/-- There is a path from one session to another one. -/
def Reaches (s t : Session) : Prop := ∃ ds, Path s ds t

/-- There is a path with deeds of some kind only. -/
def Along (p : Deed → Bool) (s t : Session) : Prop := ∃ ds, (∀ d ∈ ds, p d = true) ∧ Path s ds t

/-- There is a path on which no task comes to a conclusion. -/
abbrev Quietly : Session → Session → Prop := Along fun d => !d.isConclusion

/-- There is a path on which no task is made or gets any further. -/
abbrev Idly : Session → Session → Prop := Along fun d => !d.isWork

/-! ### Composition -/

variable {s t u : Session} {d : Deed} {ds es : List Deed}

theorem Agrees.refl (s : Session) : s.Agrees s := ⟨rfl, rfl, rfl⟩

theorem Agrees.trans (h : s.Agrees t) (k : t.Agrees u) : s.Agrees u :=
  ⟨k.setting.trans h.setting, k.ledger.trans h.ledger, k.docket.trans h.docket⟩

theorem Path.append (h : Path s ds t) (k : Path t es u) : Path s (ds ++ es) u := by
  induction h with
  | rest s => exact k
  | move first more ih => exact .move first (ih k)

theorem Path.of_append (h : Path s (ds ++ es) u) : ∃ t, Path s ds t ∧ Path t es u := by
  induction ds generalizing s with
  | nil => exact ⟨s, .rest s, h⟩
  | cons d rest ih =>
      cases h with
      | move first more =>
          obtain ⟨t, hrest, hmore⟩ := ih more
          exact ⟨t, .move first hrest, hmore⟩

theorem Move.reaches (h : Move s d t) : s.Reaches t := ⟨[d], .move h (.rest t)⟩

theorem Agrees.reaches (h : s.Agrees t) : s.Reaches t := (Move.aside h).reaches

theorem Reaches.refl (s : Session) : s.Reaches s := ⟨[], .rest s⟩

theorem Reaches.trans (h : s.Reaches t) (k : t.Reaches u) : s.Reaches u := by
  obtain ⟨ds, hds⟩ := h
  obtain ⟨es, hes⟩ := k
  exact ⟨ds ++ es, hds.append hes⟩

theorem Move.along {p : Deed → Bool} (h : Move s d t) (hd : p d = true) : s.Along p t := by
  refine ⟨[d], ?_, .move h (.rest t)⟩
  rintro _ (_ | ⟨_, ⟨⟩⟩)
  exact hd

theorem Agrees.idly (h : s.Agrees t) : s.Idly t := (Move.aside h).along rfl

theorem Agrees.quietly (h : s.Agrees t) : s.Quietly t := (Move.aside h).along rfl

theorem Along.refl (p : Deed → Bool) (s : Session) : s.Along p s := ⟨[], nofun, .rest s⟩

theorem Along.trans {p : Deed → Bool} (h : s.Along p t) (k : t.Along p u) : s.Along p u := by
  obtain ⟨ds, hkind, hds⟩ := h
  obtain ⟨es, hkind', hes⟩ := k
  refine ⟨ds ++ es, fun d hd => ?_, hds.append hes⟩
  rcases List.mem_append.1 hd with hd | hd
  · exact hkind d hd
  · exact hkind' d hd

theorem Along.reaches {p : Deed → Bool} (h : s.Along p t) : s.Reaches t := by
  obtain ⟨ds, _, hds⟩ := h
  exact ⟨ds, hds⟩

/-- Where no task gets any further, none comes to a conclusion. -/
theorem Along.quietly (h : s.Idly t) : s.Quietly t := by
  obtain ⟨ds, hidle, hds⟩ := h
  refine ⟨ds, fun d hd => ?_, hds⟩
  have hd := hidle d hd
  cases d with
  | concluded => cases hd
  | _ => rfl

end Session

end EditorProtocol
