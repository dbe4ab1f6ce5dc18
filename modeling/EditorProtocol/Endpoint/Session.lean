import EditorProtocol.Endpoint.Behaviour
import EditorProtocol.Logging.Entry
import EditorProtocol.Logging.Logger

/-!
The state of one endpoint and of everything that runs at it: the loop that receives messages, a
task for every request that is being served, and the callers that wait for replies. Whatever is
able to go on has a job in a queue; jobs are done in the order in which they became possible.
-/

namespace EditorProtocol

/-- An incoming request. -/
structure IncomingRequest where
  id : RequestId
  method : String
  params : Value
deriving Repr

structure IncomingNotification where
  method : String
  params : Value
deriving Repr

/-- What the transport has ready to be received. -/
inductive Incoming where
  | message (m : Value)
  | failure (f : TransportFailure)
deriving Repr

/-- Why a task that waited is able to go on. -/
inductive Signal where
  | opened
  | interrupted
deriving DecidableEq, Repr

/-- How far the serving of a request has come. -/
inductive Progress where
  | created
  | waiting (gate : String) (opened interrupted : Behaviour) (signal : Option Signal)
  | ended

/-- The serving of a request. A cancellation that comes when the task is already able to go on is
kept until it does. -/
structure Task where
  number : Nat
  request : IncomingRequest
  progress : Progress
  cancelled : Bool

/-- How far the loop that receives messages has come. -/
inductive Loop where
  | created
  | receiving
  /-- Received messages are there to be taken. -/
  | awake
  /-- A handler of a notification waits at a gate. -/
  | handling (gate : String) (opened : Behaviour) (isOpen : Bool)
  | ended (failure : Option EndpointError)

/-- A caller that sends a request and waits for its reply. -/
structure Caller where
  number : Nat
  label : String
  /-- What the method is named by. -/
  method : Value
  params : Value
  /-- The request that was sent, once it was. -/
  sent : Option RequestId

/-- A request that was sent, with its outcome from the moment that it is known. -/
structure Outstanding where
  id : RequestId
  pending : PendingRequest
  caller : Nat
  outcome : Option (Except EndpointError Reply)

inductive Job where
  | receive
  | serve (task : Nat)
  /-- Clears up after a task that may have failed. -/
  | clear (task : Nat) (failure : Option EndpointError)
  | call (caller : Nat)

/-- What is seen of an endpoint besides its messages and log entries. -/
inductive Event where
  | handlerCalled (method : String) (params : Value)
  | handlerInterrupted (gate : String)
  | answered (label : String) (result : Value)
  | failed (label : String) (error : EndpointError)

/-- Who waits at a gate. -/
inductive Waiter where
  | loop
  | task (number : Nat)
deriving DecidableEq, Repr

structure Session where
  family : Family
  registry : Registry
  /-- Whether the loop goes on to receive messages. -/
  isRunning : Bool
  nextId : Nat
  outstanding : List Outstanding
  cancelledOutgoing : List RequestId
  cancelledIncoming : List RequestId
  /-- The task that is cancelled when the other side takes back the request of an identity. -/
  taskOf : List (RequestId × Nat)
  requestHandlers : List (String × Handler)
  notificationHandlers : List (String × Handler)
  logBuffer : List Buffered
  inbox : List Incoming
  outbox : List Value
  sendFailure : Option TransportFailure
  openGates : List String
  waiters : List (String × Waiter)
  loop : Loop
  tasks : List Task
  callers : List Caller
  ready : List Job
  nextNumber : Nat
  events : List Event
  log : List LogEntry

/-- Something done at an endpoint. What it changed stays changed if it fails. -/
abbrev Action := ExceptT EndpointError (StateM Session)

namespace Session

/-- An endpoint whose loop is about to start. -/
def start (family : Family) (registry : Registry) : Session where
  family
  registry
  isRunning := true
  nextId := 0
  outstanding := []
  cancelledOutgoing := []
  cancelledIncoming := []
  taskOf := []
  requestHandlers := []
  notificationHandlers := []
  logBuffer := []
  inbox := []
  outbox := []
  sendFailure := none
  openGates := []
  waiters := []
  loop := .created
  tasks := []
  callers := []
  ready := [.receive]
  nextNumber := 0
  events := []
  log := []

def note (s : Session) (entries : List LogEntry) : Session := { s with log := s.log ++ entries }

/-- An entry of the endpoint's own logger. -/
def report (s : Session) (severity : Severity) (message : String) : Session :=
  s.note [⟨severity, "lsp_contract.endpoint", message⟩]

def emit (s : Session) (e : Event) : Session := { s with events := s.events ++ [e] }

def enqueue (s : Session) (j : Job) : Session := { s with ready := s.ready ++ [j] }

def task? (s : Session) (number : Nat) : Option Task := s.tasks.find? (·.number == number)

def setTask (s : Session) (t : Task) : Session :=
  { s with tasks := s.tasks.map fun u => if u.number == t.number then t else u }

def caller? (s : Session) (number : Nat) : Option Caller :=
  s.callers.find? (·.number == number)

def outstanding? (s : Session) (id : RequestId) : Option Outstanding :=
  s.outstanding.find? (·.id == id)

def handlerOf (handlers : List (String × Handler)) (method : String) : Option Handler :=
  (handlers.find? (·.1 == method)).map (·.2)

/-- A handler in the place of the one that the method had before. -/
def withHandler (handlers : List (String × Handler)) (method : String) (h : Handler) :
    List (String × Handler) :=
  (method, h) :: handlers.filter (·.1 != method)

/-- Fixes the outcome of a request; its caller is then able to go on. -/
def settle (s : Session) (id : RequestId) (outcome : Except EndpointError Reply) : Session :=
  match s.outstanding? id with
  | none => s
  | some o =>
    { s with
      outstanding := s.outstanding.map fun p =>
        if p.id == id then { p with outcome := some outcome } else p
      ready := s.ready ++ [.call o.caller] }

/-- Cancels a task. One that waits is interrupted; any other one that has not ended is marked. -/
def cancelTask (s : Session) (number : Nat) : Session :=
  match s.task? number with
  | none => s
  | some t =>
    match t.progress with
    | .ended => s
    | .waiting gate opened interrupted none =>
      let woken := { t with progress := .waiting gate opened interrupted (some .interrupted) }
      (s.setTask woken).enqueue (.serve number)
    | _ => s.setTask { t with cancelled := true }

/-- Lets a waiter go on, unless it is able to already. -/
def wake (s : Session) : Waiter → Session
  | .loop =>
    match s.loop with
    | .handling gate opened false => { s with loop := .handling gate opened true }.enqueue .receive
    | _ => s
  | .task number =>
    match s.task? number with
    | some t =>
      match t.progress with
      | .waiting gate opened interrupted none =>
        (s.setTask { t with progress := .waiting gate opened interrupted (some .opened) }).enqueue
          (.serve number)
      | _ => s
    | none => s

/-- Opens a gate for good; who waits there goes on in the order of coming. -/
def openGate (s : Session) (gate : String) : Session :=
  let s := { s with openGates := gate :: s.openGates }
  (s.waiters.filter (·.1 == gate)).foldl (fun s w => s.wake w.2) s

/-- Who goes on no longer waits. -/
def leave (s : Session) (w : Waiter) : Session :=
  { s with waiters := s.waiters.filter (·.2 != w) }

end Session

namespace Action

/-- An outcome with the warnings on the way to it. -/
def ofTraced {α : Type} (t : Traced Refusal α) : Action α := do
  modify (·.note (t.warnings.map Warning.entry))
  match t.outcome with
  | .ok a => return a
  | .error r => throw (.refused r)

def ofTransition {α : Type} (r : Except TransitionError α) : Action α :=
  match r with
  | .ok a => return a
  | .error e => throw (.transition e)

/-- The error that an action ends with, turned into a result. -/
def attempt {α : Type} (x : Action α) : Action (Except EndpointError α) := ExceptT.lift x.run

/-- Hands a message to the transport. -/
def transmit (message : Value) : Action Unit := do
  match (← get).sendFailure with
  | some f => throw (.transport f)
  | none => modify fun s => { s with outbox := s.outbox ++ [message] }

end Action

end EditorProtocol
