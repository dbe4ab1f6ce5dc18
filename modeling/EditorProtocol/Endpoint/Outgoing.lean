import EditorProtocol.Endpoint.Session

/-!
What an endpoint sends of its own: requests, whose callers wait for the outcome; cancellations;
notifications; and the log entries that were collected for the other side.
-/

namespace EditorProtocol

/-- The identity that a value names: a number, be it a boolean or a float, or a text. -/
def RequestId.ofValue? (v : Value) : Option RequestId :=
  match v.text?, v.numeral? with
  | some s, _ => some (.name s)
  | none, some (.int n) => some (.number n)
  | none, some (.float x) => x.toInt?.map .number
  | none, none => none

namespace Action

/-- Sends a notification. -/
def sendNotification (method : String) (params : Value) : Action NotificationRecord := do
  let s ← get
  let n ← ofTraced (s.registry.buildNotification s.family method params)
  modify (·.note [n.entry])
  modify (·.report .debug ("Sending notification " ++ n.method.name))
  transmit n.message
  ofTransition (NotificationRecord.start n).markDelivered

/-- Cancels a request that waits for its reply. The caller gets the outcome even if the
cancellation does not reach the other side. -/
def cancelRequest (id : Value) : Action Unit := do
  let s ← get
  match (RequestId.ofValue? id).bind s.outstanding? with
  | none => throw (.notPending id)
  | some o =>
    if o.outcome.isSome then throw (.answered id)
    let p ← ofTransition o.pending.cancel
    modify fun s => { s with
      outstanding := s.outstanding.map fun q =>
        if q.id == o.id then { q with pending := p } else q
      cancelledOutgoing :=
        if s.cancelledOutgoing.contains o.id then s.cancelledOutgoing
        else o.id :: s.cancelledOutgoing }
    modify (·.settle o.id (.error (.replied (.cancelled p.request.method.name))))
    let params := Catalog.cancelParams.instanceOf [("id", o.id.value)]
    let _ ← sendNotification Catalog.cancelName params

/-- A record that a value is to be, or the rules that keep it from being one. -/
def ofValidation {α : Type} (model : Model) (r : Except Rejection α) : Action α :=
  match r with
  | .ok v => return v
  | .error (.violations vs) => throw (.invalid model.ref.name vs)
  | .error (.fault f) => throw (.refused (.fault f))

/-- Sends an entry of the log to the other side. -/
def logMessage (message type : Value) : Action Unit := do
  let model := Catalog.logMessageParams
  let params ← ofValidation model
    (model.make (← get).family [("type", type), ("message", message)])
  let _ ← sendNotification Catalog.logName params

/-- Sends the given entries, which are the ones collected so far. -/
def sendLogs : List Buffered → Action Unit
  | [] => return
  | b :: rest => do
    modify fun s => { s with logBuffer := rest }
    logMessage (.text b.text) (.member b.type)
    sendLogs rest

/-- Sends all collected entries to the other side. -/
def flushLogs : Action Unit := do sendLogs (← get).logBuffer

/-- Sends the request of a caller, who then waits for the outcome. -/
def sendRequest (c : Caller) : Action Unit := do
  let s ← get
  let name ← ofTraced (.of (Method.nameOf c.method))
  let r ← ofTraced (s.registry.buildRequest s.family name c.params)
  modify (·.note [r.entry])
  let id := RequestId.number s.nextId
  let p ← ofTransition (PendingRequest.start id.value r s.registry).markAwaiting
  modify fun s => { s with
    nextId := s.nextId + 1
    outstanding := s.outstanding ++ [⟨id, p, c.number, none⟩]
    callers := s.callers.map fun d =>
      if d.number == c.number then { c with sent := some id } else d }
  modify (·.report .debug ("Sending request " ++ r.method.name ++ " with id " ++ toString s.nextId))
  transmit (r.message id.value)

end Action

/-- What the error of a failed reply says. -/
def Reply.lspError (r : Reply) : LspError :=
  let part (name : String) : Value :=
    match r.error with
    | .record _ slots => (Value.attribute? slots name).getD .null
    | _ => .null
  ⟨((part "code").integer?).getD 0, ((part "message").text?).getD "", part "data"⟩

namespace Session

/-- Ends a call with an event. -/
def endCall (s : Session) (c : Caller) (e : Event) : Session :=
  { s with
    callers := s.callers.filter (·.number != c.number)
    outstanding := s.outstanding.filter fun o => c.sent != some o.id }.emit e

/-- What a call ends with, once its outcome is known. -/
def outcomeEvent (c : Caller) : Except EndpointError Reply → Event
  | .error e => .failed c.label e
  | .ok r => if r.failed then .failed c.label (.replied r.lspError) else .answered c.label r.result

/-- A caller goes on: it sends its request, or takes the outcome. -/
def continueCall (s : Session) (number : Nat) : Session :=
  match s.caller? number with
  | none => s
  | some c =>
    match c.sent with
    | none =>
      match (Action.sendRequest c).run s with
      | (.ok (), s) => s
      | (.error e, s) => s.endCall ((s.caller? number).getD c) (.failed c.label e)
    | some id =>
      match (s.outstanding? id).bind (·.outcome) with
      | some outcome => s.endCall c (outcomeEvent c outcome)
      | none => s

/-- A new caller; its request is sent when its turn comes. -/
def call (s : Session) (label : String) (method params : Value) : Session :=
  let c : Caller := ⟨s.nextNumber, label, method, params, none⟩
  { s with callers := s.callers ++ [c], nextNumber := s.nextNumber + 1 }.enqueue (.call c.number)

end Session

end EditorProtocol
