import EditorProtocol.Logging.Template
import EditorProtocol.Catalog.Enumerations

/-!
Loggers and the buffers that collect their messages for the other side. A logger follows the debug
mode unless it was given a level of its own; a message passes if its level reaches that of its
logger, and then goes to the collectors of the logger and of all loggers above it.
-/

namespace EditorProtocol

/-- The level from which on a logger passes messages, where nothing else is said. -/
def defaultLevel (debug : Bool) : Int := if debug then 10 else 30

/-- The type of message that a level is reported as. -/
def messageTypeOf (level : Int) : EnumMember :=
  let typed (name : String) (code : Int) : EnumMember :=
    ⟨Catalog.messageType.name, .integer, name, .int code⟩
  if 40 ≤ level then typed "ERROR" 1
  else if 30 ≤ level then typed "WARNING" 2
  else if 20 ≤ level then typed "INFO" 3
  else typed "LOG" 4

/-- A message that waits to be sent to the other side. -/
structure Buffered where
  text : String
  type : EnumMember
deriving DecidableEq, Repr

/-- What a collector makes of a message of a logger; one that cannot be filled in is dropped. -/
def Buffered.of? (logger : String) (level : Int) (template : String) (args : List Value) :
    Option Buffered :=
  (Template.fill template args).map fun text => ⟨logger ++ ": " ++ text, messageTypeOf level⟩

/-- A logger with its level, which may follow the debug mode. -/
structure Logger where
  name : String
  level : Int
  follows : Bool
deriving DecidableEq, Repr

/-- A collector of the messages of a logger, from a level on. -/
structure Collector where
  logger : String
  level : Int
deriving DecidableEq, Repr

structure Loggers where
  debug : Bool
  loggers : List Logger
  collectors : List Collector
  buffer : List Buffered
  /-- The names of all loggers that were ever asked for. -/
  known : List String
deriving Repr

namespace Loggers

def start (debug : Bool) : Loggers := ⟨debug, [], [], [], []⟩

/-- The loggers after the one of a name was asked for. -/
def know (L : Loggers) (name : String) : Loggers :=
  if L.known.contains name then L else { L with known := L.known ++ [name] }

def find? (L : Loggers) (name : String) : Option Logger := L.loggers.find? (·.name == name)

/-- A logger added, or put in the place of the one of the same name. -/
def put (L : Loggers) (l : Logger) : Loggers :=
  if (L.find? l.name).isSome then
    { L with loggers := L.loggers.map fun k => if k.name == l.name then l else k }
  else { L with loggers := L.loggers ++ [l] }

/-- The logger of a name follows the debug mode, or has a level of its own from now on. -/
def get (L : Loggers) (name : String) (level : Option Int) : Loggers :=
  match level with
  | some level => (L.know name).put ⟨name, level, false⟩
  | none => (L.know name).put ⟨name, defaultLevel L.debug, true⟩

/-- Turns the debug mode on or off. -/
def setDebug (L : Loggers) (debug : Bool) : Loggers :=
  { L with
    debug
    loggers := L.loggers.map fun l =>
      if l.follows then { l with level := defaultLevel debug } else l }

def collect (L : Loggers) (name : String) (level : Int) : Loggers :=
  { L.know name with collectors := L.collectors ++ [⟨name, level⟩] }

/-- The known names above a logger, whose name is given from its end. A dot goes one step down. A
dot directly before it belongs to the name that ends there, and is passed over with that name if
the name is not known. -/
def namesAbove (known : List String) : List Char → List String
  | [] => []
  | ['.'] => if known.contains "" then [""] else []
  | '.' :: c :: rest =>
    let name := String.ofList (c :: rest).reverse
    if known.contains name then name :: namesAbove known (c :: rest) else namesAbove known rest
  | _ :: rest => namesAbove known rest

/-- A logger's name and the names above it. -/
def lineage (L : Loggers) (name : String) : List String :=
  name :: namesAbove L.known name.toList.reverse

/-- The level that counts for a logger: the first one set on the way up. -/
def effectiveLevel (L : Loggers) (name : String) : Int :=
  let levels := (L.lineage name).filterMap fun n => (L.find? n).map (·.level)
  (levels.find? (· != 0)).getD (defaultLevel false)

/-- A message of a logger; only one of a positive level can pass. -/
def log (L : Loggers) (name : String) (level : Int) (template : String) (args : List Value) :
    Loggers :=
  let L := L.know name
  if level ≤ 0 ∨ level < L.effectiveLevel name then L
  else
    let reached := (L.lineage name).flatMap fun n =>
      L.collectors.filter fun c => c.logger == n && decide (c.level ≤ level)
    match Buffered.of? name level template args with
    | some b => { L with buffer := L.buffer ++ reached.map fun _ => b }
    | none => L

end Loggers

end EditorProtocol
