import EditorProtocol.Endpoint.Outgoing

/-!
How incoming requests are served. Every request gets a task of its own, which calls the handler of
the method and replies with its result or its error. A task that is cancelled before its turn
comes ends without a word; one that is interrupted in its handler replies that it was cancelled if
the other side asked for it.
-/

namespace EditorProtocol

/-- Where a behaviour came to a stop. -/
inductive Stop where
  | returned (v : Value)
  | raised (e : EndpointError)
  | gaveUp
  | waiting (gate : String) (opened interrupted : Behaviour)

/-- Goes on with a behaviour until it ends or waits at a closed gate. -/
def Behaviour.advance : Behaviour → Session → Stop × Session
  | .finish (.ok v), s => (.returned v, s)
  | .finish (.error e), s => (.raised e, s)
  | .giveUp, s => (.gaveUp, s)
  | .notify method params next, s =>
    match (Action.sendNotification method params).run s with
    | (.ok _, s) => next.advance s
    | (.error e, s) => (.raised e, s)
  | .cancel id next, s =>
    match (Action.cancelRequest id).run s with
    | (.ok _, s) => next.advance s
    | (.error e, s) => (.raised e, s)
  | .wait gate opened interrupted, s =>
    if s.openGates.contains gate then opened.advance s else (.waiting gate opened interrupted, s)

namespace Action

/-- The response with an error to a request whose method the registry does not have as one. -/
def plainErrorResponse (id : RequestId) (e : LspError) : Value :=
  .object [("jsonrpc", envelopeVersion), ("id", id.value),
    ("error", .object ([("code", .int e.code), ("message", .text e.message)] ++
      if e.data.isNull then [] else [("data", e.data)]))]

/-- Replies to a request with an error record. -/
def serveRecord (r : IncomingRequest) (error : Value) : Action Unit := do
  let s ← get
  let reply ← ofTraced (.of (s.registry.buildReply s.family r.method .null error))
  let response := reply.message r.id.value
  modify (·.report .warning ("Serving error response: " ++ response.render))
  transmit response

/-- Replies to a request with an error of given parts, which have to make an error record. -/
def serveParts (r : IncomingRequest) (code message data : Value) : Action Unit := do
  let model := Catalog.responseError
  serveRecord r (← ofValidation model (model.make (← get).family
    [("code", code), ("message", message), ("data", data)]))

/-- Replies to a request with an error. -/
def serveError (r : IncomingRequest) (e : LspError) : Action Unit := do
  if ((← get).registry.find? r.method).any (·.isRequest) then
    serveParts r (.int e.code) (.text e.message) e.data
  else
    let response := plainErrorResponse r.id e
    modify (·.report .warning ("Serving error response: " ++ response.render))
    transmit response

/-- Replies to a request with an error that its handler failed with. -/
def serveFailure (r : IncomingRequest) (e : EndpointError) : Action Unit := do
  match e with
  | .replied e => serveError r e
  | .raised code message data => serveParts r code message data
  | e =>
    modify (·.report .error e.message)
    serveError r ⟨LspError.internalError, e.message, .null⟩

/-- Replies to a request with the result of its handler. -/
def serveResult (r : IncomingRequest) (result : Value) : Action Unit := do
  let s ← get
  match s.registry.buildReply s.family r.method result .null with
  | .ok reply => transmit (reply.message r.id.value)
  | .error e => serveFailure r (.refused e)

/-- Replies to a request whose handler was interrupted, if the other side took the request back. -/
def serveInterruption (r : IncomingRequest) : Action Unit := do
  let s ← get
  if s.cancelledIncoming.contains r.id then
    set { s with cancelledIncoming := s.cancelledIncoming.filter (· != r.id) }
    serveError r (.cancelled r.method)

end Action

namespace Session

/-- Ends a task; what it failed with is reported when it is cleared. -/
def endTask (s : Session) (t : Task) (failure : Option EndpointError) : Session :=
  (s.setTask { t with progress := .ended, cancelled := false }).enqueue (.clear t.number failure)

/-- Ends a task with the last thing that it does. -/
def endTaskWith (s : Session) (t : Task) (last : Action Unit) : Session :=
  match last.run s with
  | (.ok (), s) => s.endTask t none
  | (.error e, s) => s.endTask t (some e)

/-- A task goes on after its handler came to a stop. -/
def afterStop (s : Session) (t : Task) : Stop → Session
  | .returned v => s.endTaskWith t (Action.serveResult t.request v)
  | .raised e => s.endTaskWith t (Action.serveFailure t.request e)
  | .gaveUp => s.endTaskWith t (Action.serveInterruption t.request)
  | .waiting gate opened interrupted =>
    let entry := (gate, Waiter.task t.number)
    { s with waiters := s.waiters ++ [entry] }.setTask
      { t with progress := .waiting gate opened interrupted none }

/-- The behaviour of a task from some point on. -/
def goOn (s : Session) (t : Task) (b : Behaviour) : Session :=
  match b.advance s with
  | (stop, s) => s.afterStop t stop

/-- The turn of a task that has not begun. -/
def beginTask (s : Session) (t : Task) : Session :=
  let r := t.request
  let s := s.report .debug
    ("Request received: " ++ r.method ++ " with id " ++ r.id.value.plain)
  match s.registry.find? r.method, handlerOf s.requestHandlers r.method with
  | some m, some handler =>
    if !m.isRequest then s.endTaskWith t (Action.serveError r (unknown r))
    else
      match (Action.ofTraced (s.registry.decodeParams s.family r.method r.params)).run s with
      | (.ok params, s) => (s.emit (.handlerCalled r.method params)).goOn t (handler params)
      | (.error e, s) =>
        if e.isShape then
          s.endTaskWith t (Action.serveError r ⟨LspError.invalidParams, e.message, .null⟩)
        else s.endTask t (some e)
  | _, _ => s.endTaskWith t (Action.serveError r (unknown r))
where
  unknown (r : IncomingRequest) : LspError :=
    ⟨LspError.methodNotFound, "Unknown method: " ++ r.method, .null⟩

/-- The turn of a task. -/
def serve (s : Session) (number : Nat) : Session :=
  match s.task? number with
  | none => s
  | some t =>
    match t.progress with
    | .created => if t.cancelled then s.endTask t none else s.beginTask t
    | .waiting gate opened interrupted (some signal) =>
      let s := s.leave (.task number)
      if t.cancelled || signal == .interrupted then
        (s.emit (.handlerInterrupted gate)).goOn { t with cancelled := false } interrupted
      else s.goOn t opened
    | _ => s

/-- Forgets a task that has ended, and with it the task that its identity stood for. -/
def clear (s : Session) (number : Nat) (failure : Option EndpointError) : Session :=
  let s := (failure.map fun e => s.report .error e.message).getD s
  match s.task? number with
  | none => s
  | some t =>
    { s with
      tasks := s.tasks.filter (·.number != number)
      taskOf := s.taskOf.filter (·.1 != t.request.id) }

/-- A new task for a request; its turn comes later. -/
def accept (s : Session) (r : IncomingRequest) : Session :=
  let t : Task := ⟨s.nextNumber, r, .created, false⟩
  { s with
    tasks := s.tasks ++ [t]
    taskOf := (r.id, t.number) :: s.taskOf.filter (·.1 != r.id)
    nextNumber := s.nextNumber + 1 }.enqueue (.serve t.number)

end Session

end EditorProtocol
