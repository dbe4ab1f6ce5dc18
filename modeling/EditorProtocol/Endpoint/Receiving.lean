import EditorProtocol.Endpoint.Serving
import EditorProtocol.Framing.Message

/-!
The loop that receives messages. A message with a method and an identity is a request, one with a
method alone a notification, one with an identity alone a response; anything else is dropped. The
loop takes whatever has been received without a pause, unless a handler of a notification makes it
wait; in the end it cancels all tasks and tells all callers that the connection was closed. What it
gets from a stream of bytes is the message that was read, or a failure of the transport.
-/

namespace EditorProtocol

/-- What the validated record of a message has under a name. -/
def Value.partOf (v : Value) (name : String) : Value :=
  match v with
  | .record _ slots => (attribute? slots name).getD .null
  | _ => .null

/-- A request as it was received. -/
def IncomingRequest.ofRecord (v : Value) : IncomingRequest :=
  let id :=
    match (v.partOf "id").text?, (v.partOf "id").integer? with
    | some s, _ => RequestId.name s
    | none, n => .number (n.getD 0)
  ⟨id, (v.partOf "method").text?.getD "", v.partOf "params"⟩

/-- A notification as it was received. -/
def IncomingNotification.ofRecord (v : Value) : IncomingNotification :=
  ⟨(v.partOf "method").text?.getD "", v.partOf "params"⟩

/-- Whether a text is a part of another one. -/
def isPartOf (part : List Char) : List Char → Bool
  | [] => part.isEmpty
  | c :: rest => part.isPrefixOf (c :: rest) || isPartOf part rest

/-- Whether a received value has a part of a name: an object under that key, a sequence among its
items, a text in its characters. -/
def Value.has (v : Value) (name : String) : Except StrangeMessage Bool :=
  let among (xs : List Value) : Except StrangeMessage Bool :=
    .ok (xs.any fun x => x.text? == some name)
  match v, v.text? with
  | _, some s => .ok (isPartOf name.toList s.toList)
  | .list xs, _ => among xs
  | .tuple xs, _ => among xs
  | .set xs, _ => among xs
  | .bytes _, _ => .error .bytes
  | .record _ _, _ => .ok false
  | v, _ => if v.isObject then .ok (v.at? name).isSome else .error (.noParts v.kindName)

/-- Why a received value that has a part of a name cannot be asked for it. -/
def Value.strangeness? (v : Value) : Option StrangeMessage :=
  match v, v.text? with
  | _, some _ => some (.numbered "str")
  | .list _, _ => some (.numbered "list")
  | .tuple _, _ => some (.numbered "tuple")
  | .set _, _ => some (.closed "set")
  | _, _ => none

/-- What was done with a message. -/
inductive Dispatched where
  | done
  | failed (e : EndpointError)
  /-- The handler of a notification waits at a gate. -/
  | waiting (gate : String) (opened : Behaviour)
  /-- The handler of a notification gave up. -/
  | gaveUp

namespace Action

/-- A response completes the request of its identity. A reply to a cancelled request, and a second
one to any request, is ignored; a reply of the wrong shape fails the request. -/
def handleResponse (m : Value) : Action Unit := do
  let s ← get
  let id := (m.at? "id").getD .null
  let key :=
    match id with
    | .float _ => none
    | id => RequestId.ofValue? id
  if key.any s.cancelledOutgoing.contains then
    modify fun s => { s with
      cancelledOutgoing := s.cancelledOutgoing.filter fun k => key != some k }
    modify (·.report .debug ("Ignoring reply to cancelled request " ++ id.render))
  else
    match key.bind s.outstanding? with
    | none =>
      modify (·.report .error
        ("Received response with id " ++ id.render ++ " but no such request is pending."))
    | some o =>
      if o.outcome.isSome then
        modify (·.report .debug ("Ignoring late response to request " ++ id.render))
      else
        let method := o.pending.request.method.name
        match ← attempt (ofTraced (s.registry.acceptResponse s.family method m)) with
        | .error e =>
          if !e.isShape then throw e
          modify (·.report .error e.message)
          modify (·.settle o.id (.error e))
        | .ok reply =>
          match o.pending.resolve reply with
          | .error e =>
            modify (·.report .error e.message)
            modify (·.settle o.id (.error (.transition e)))
          | .ok p =>
            modify fun s => { s with
              outstanding := s.outstanding.map fun q =>
                if q.id == o.id then { q with pending := p } else q }
            modify (·.settle o.id (.ok reply))

/-- What a notification does before its handler is called: it takes back a request, or ends the
loop. The result is what the handler is called with, if anything. -/
def acceptNotification (n : IncomingNotification) : Action (Option Value) := do
  modify (·.report .debug ("Notification received: " ++ n.method))
  let s ← get
  if (s.registry.find? n.method).all (·.isRequest) then
    if !"$/".isPrefixOf n.method then
      modify (·.report .warning
        ("Incoming notification type '" ++ n.method ++ "' not implemented."))
    return none
  match ← attempt (ofTraced (s.registry.decodeParams s.family n.method n.params)) with
  | .error e =>
    if !e.isShape then throw e
    modify (·.report .error e.message)
    return none
  | .ok params =>
    if n.method == Catalog.cancelName then modify (takeBack params)
    else if n.method == Catalog.exitName then modify fun s => { s with isRunning := false }
    return some params
where
  /-- Cancels the task of the request that the parameters name. -/
  takeBack (params : Value) (s : Session) : Session :=
    let id? : Option RequestId :=
      match params with
      | .record _ slots => (Value.attribute? slots "id").bind RequestId.ofValue?
      | _ => none
    match id? with
    | none => s
    | some id =>
      match (s.taskOf.find? (·.1 == id)).bind fun e => s.task? e.2 with
      | none => s
      | some t =>
        match t.progress with
        | .ended => s
        | _ =>
          { s with
            cancelledIncoming :=
              if s.cancelledIncoming.contains id then s.cancelledIncoming
              else id :: s.cancelledIncoming }.cancelTask t.number

end Action

namespace Session

/-- The loop goes on with the handler of a notification. -/
def advanceHandler (s : Session) (b : Behaviour) : Dispatched × Session :=
  match b.advance s with
  | (.returned _, s) => (.done, s)
  | (.raised e, s) => (.done, s.report .error e.message)
  | (.gaveUp, s) => (.gaveUp, s)
  | (.waiting gate opened _, s) => (.waiting gate opened, s)

/-- A result of dispatching; the errors of the contract are only reported. -/
def survive (s : Session) (e : EndpointError) : Dispatched × Session :=
  if e.isOwn then (.done, s.report .error e.message) else (.failed e, s)

def dropMalformed (s : Session) (what : String) : Dispatched × Session :=
  (.done, s.report .error ("Dropping malformed message: " ++ what))

/-- Drops a message that is no record of its model. -/
def reject (s : Session) (model : Model) : Rejection → Dispatched × Session
  | .violations vs => s.dropMalformed (Violation.heading model.ref.name vs)
  | .fault f => s.survive (.refused (.fault f))

/-- Does what a notification asks for. -/
def dispatchNotification (s : Session) (n : IncomingNotification) : Dispatched × Session :=
  match (Action.acceptNotification n).run s with
  | (.error e, s) => s.survive e
  | (.ok none, s) => (.done, s)
  | (.ok (some params), s) =>
    match handlerOf s.notificationHandlers n.method with
    | none => (.done, s)
    | some handler => (s.emit (.handlerCalled n.method params)).advanceHandler (handler params)

/-- Does what a message asks for. -/
def dispatch (s : Session) (m : Value) : Dispatched × Session :=
  match m.has "method", m.has "id" with
  | .error e, _ => s.survive (.strange e)
  | _, .error e => s.survive (.strange e)
  | .ok true, .ok true =>
    match Catalog.requestMessage.validate s.family m with
    | .ok v => (.done, s.accept (.ofRecord v))
    | .error e => s.reject Catalog.requestMessage e
  | .ok true, .ok false =>
    match Catalog.notificationMessage.validate s.family m with
    | .ok v => s.dispatchNotification (.ofRecord v)
    | .error e => s.reject Catalog.notificationMessage e
  | .ok false, .ok true =>
    match m.strangeness? with
    | some e => s.survive (.strange e)
    | none =>
      match (Action.handleResponse m).run s with
      | (.ok (), s) => (.done, s)
      | (.error e, s) => s.survive e
  | .ok false, .ok false => s.dropMalformed m.plain

/-- The end of the loop: all tasks are cancelled, all callers told. -/
def finish (s : Session) (failure : Option EndpointError) : Session :=
  let s := { s with loop := .ended failure }
  let s := s.tasks.foldl (fun s t => s.cancelTask t.number) s
  s.outstanding.foldl (fun s o =>
    if o.outcome.isSome then s
    else s.settle o.id (.error (.connectionClosed o.pending.request.method.name))) s

/-- The end of the loop after a failure of the transport. -/
def finishAfter (s : Session) (f : TransportFailure) : Session :=
  match f.kind with
  | .closed => (s.report .debug "Transport closed").finish none
  | .framing => (s.report .error ("Closing connection: " ++ f.message)).finish none
  | .unexpected => s.finish (some (.transport f))

/-- The loop goes on after a message was dispatched, unless it has to wait or to end. -/
def afterDispatch (goOn : Session → Session) : Dispatched × Session → Session
  | (.done, s) => goOn s
  | (.failed e, s) => s.finish (some e)
  | (.gaveUp, s) => s.finish none
  | (.waiting gate opened, s) =>
    { s with loop := .handling gate opened false, waiters := s.waiters ++ [(gate, .loop)] }

/-- Takes what was received first. -/
def take (goOn : Session → Session) (s : Session) : Incoming → Session
  | .failure f => s.finishAfter f
  | .message m => afterDispatch goOn (s.dispatch m)

/-- Takes what has been received, one after the other. -/
def receiveAll : List Incoming → Session → Session
  | [], s => if s.isRunning then { s with loop := .receiving } else s.finish none
  | x :: rest, s =>
    if s.isRunning then { s with inbox := rest }.take (receiveAll rest) x else s.finish none

/-- The turn of the loop. One that waited to receive takes a message even if it was told to stop
in the meantime. -/
def receive (s : Session) : Session :=
  match s.loop with
  | .created => receiveAll s.inbox s
  | .awake =>
    match s.inbox with
    | [] => { s with loop := .receiving }
    | x :: rest => { s with inbox := rest }.take (receiveAll rest) x
  | .handling _ opened true =>
    afterDispatch (fun s => receiveAll s.inbox s) ((s.leave .loop).advanceHandler opened)
  | _ => s

/-- Something arrives; a loop that waits for messages goes on. -/
def arrive (s : Session) (x : Incoming) : Session :=
  let s := { s with inbox := s.inbox ++ [x] }
  match s.loop with
  | .receiving => { s with loop := .awake }.enqueue .receive
  | _ => s

/-- One turn. -/
def perform (s : Session) : Job → Session
  | .receive => s.receive
  | .serve number => s.serve number
  | .clear number failure => s.clear number failure
  | .call number => s.continueCall number

/-- The next turn, if anything is able to go on. -/
def step (s : Session) : Session :=
  match s.ready with
  | [] => s
  | j :: rest => { s with ready := rest }.perform j

/-- A number of turns. -/
def run : Nat → Session → Session
  | 0, s => s
  | n + 1, s => s.step.run n

def isIdle (s : Session) : Bool := s.ready.isEmpty

def stop (s : Session) : Session := { s with isRunning := false }

/-- The method that a value names, which has to be of a direction to get a handler. -/
def methodFor (s : Session) (method : Value) (direction : Direction) :
    Except EndpointError Method := do
  let name ← (Method.nameOf method).mapError .refused
  let m ← (s.registry.get name).mapError .refused
  if m.direction = direction then return m else throw (.wrongHandler m.name direction)

/-- A handler for the requests of a method. -/
def onRequest (s : Session) (method : Value) (h : Handler) : Except EndpointError Session := do
  let m ← s.methodFor method .request
  return { s with requestHandlers := withHandler s.requestHandlers m.name h }

/-- A handler for the notifications of a method. -/
def onNotification (s : Session) (method : Value) (h : Handler) :
    Except EndpointError Session := do
  let m ← s.methodFor method .notification
  return { s with notificationHandlers := withHandler s.notificationHandlers m.name h }

end Session

/-! ### What is read from a stream -/

def EncodingError.name : EncodingError → String
  | .unknown _ | .notText .. => "LookupError"
  | .nullInName => "ValueError"
  | .failed .. => "UnicodeError"
  | .undecodable .. => "UnicodeDecodeError"
  | .unencodable .. => "UnicodeEncodeError"

/-- What it means for a connection that no message was read. -/
def ReceiveError.failure (e : ReceiveError) : TransportFailure :=
  match e with
  | .fault _ => ⟨.framing, "RpcProtocolError", e.message⟩
  | .ended => ⟨.closed, "EOFError", e.message⟩
  | .cutOff .. => ⟨.closed, "IncompleteReadError", e.message⟩
  | .longLine _ | .tooLong _ => ⟨.unexpected, "ValueError", e.message⟩
  | .encoding e => ⟨.unexpected, e.name, e.message⟩

/-- What comes of reading, as the loop of an endpoint takes it. -/
def Received.incoming (r : Received) : Incoming :=
  match r.outcome with
  | .ok m => .message m
  | .error e => .failure e.failure

end EditorProtocol
