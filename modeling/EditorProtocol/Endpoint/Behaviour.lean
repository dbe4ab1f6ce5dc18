import EditorProtocol.Endpoint.Error

/-!
What handlers do. A handler answers the parameters of a message with a behaviour: it sends
notifications, cancels requests, waits at gates until they are opened, and in the end returns a
value or fails. A wait that is interrupted goes on as the handler says, as a rule by giving up.
-/

namespace EditorProtocol

inductive Behaviour where
  | finish (outcome : Except EndpointError Value)
  /-- Gives up after an interruption. -/
  | giveUp
  | notify (method : String) (params : Value) (next : Behaviour)
  | cancel (id : Value) (next : Behaviour)
  | wait (gate : String) (opened interrupted : Behaviour)

/-- A handler of the messages of a method. -/
abbrev Handler := Value → Behaviour

namespace Behaviour

def give (v : Value) : Behaviour := .finish (.ok v)

def raise (e : EndpointError) : Behaviour := .finish (.error e)

/-- Waits at a gate, or gives up when it is interrupted there. -/
def waitFor (gate : String) (opened : Behaviour) : Behaviour := .wait gate opened .giveUp

end Behaviour

end EditorProtocol
