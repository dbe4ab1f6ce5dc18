import EditorProtocol.Method.Envelope

/-!
Entries that the parts of the contract leave in the log, each under the name of its logger. A
logger passes warnings and errors on, and everything else only in debug mode.
-/

namespace EditorProtocol

inductive Severity where
  | debug
  | info
  | warning
  | error
deriving DecidableEq, Repr, Inhabited

def Severity.name : Severity → String
  | .debug => "DEBUG"
  | .info => "INFO"
  | .warning => "WARNING"
  | .error => "ERROR"

/-- The number that orders severities. -/
def Severity.level : Severity → Int
  | .debug => 10
  | .info => 20
  | .warning => 30
  | .error => 40

structure LogEntry where
  severity : Severity
  logger : String
  message : String
deriving DecidableEq, Repr, Inhabited

/-- Whether a logger that follows the debug mode passes an entry on. -/
def LogEntry.isPassed (debug : Bool) (e : LogEntry) : Bool :=
  debug || decide (Severity.warning.level ≤ e.severity.level)

/-- The entry for a wire value that matched several alternatives. -/
def Warning.entry (w : Warning) : LogEntry := ⟨.warning, "lsp_contract.codec", w.message⟩

/-- The entry for a request that was built. -/
def Request.entry (r : Request) : LogEntry :=
  ⟨.debug, "lsp_contract.registry", "Built " ++ r.method.name ++ " request"⟩

/-- The entry for a notification that was built. -/
def Notification.entry (n : Notification) : LogEntry :=
  ⟨.debug, "lsp_contract.registry", "Built " ++ n.method.name ++ " notification"⟩

end EditorProtocol
