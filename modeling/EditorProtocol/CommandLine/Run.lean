import EditorProtocol.Catalog.Legacy
import EditorProtocol.CommandLine.Command
import EditorProtocol.Json.Text
import EditorProtocol.Terminal.Layout
import EditorProtocol.Terminal.Markup

/-!
What a command line prints, and the code it ends with: zero if all is well, one if a check fails or
the configuration cannot be used, two if the line or the payload to be checked makes no sense.
-/

namespace EditorProtocol.CommandLine

/-- What ends a command before it has printed anything. -/
inductive Crash where
  | config (e : ConfigError)
  | definition (e : DefinitionError)
  | fault (f : Fault)
  /-- An integer in a payload or in an option has too many digits. -/
  | tooLong (digits : Nat)
  /-- A file is named as if it closed a style that is not open. -/
  | markup
  /-- A path holds a character that no path can hold. -/
  | noFileName
deriving Repr

/-- A method as a row: its name, its direction, and its parameters, result and error. -/
abbrev Row := List String

inductive Outcome where
  | usage (reason : Usage)
  | printed (exitCode : Nat) (text : String)
  | table (title : String) (rows : List Row)
  | crashed (c : Crash)
deriving Repr

def Outcome.exitCode : Outcome → Nat
  | .usage reason => reason.exitCode
  | .printed code _ => code
  | .table _ _ => 0
  | .crashed _ => 1

/-- How a command line ends that is not carried out. -/
def Usage.outcome : Usage → Outcome
  | .noFileName => .crashed .noFileName
  | reason => .usage reason

/-- A line of its own. -/
def line (s : String) : String := s ++ "\n"

/-- A message on lines as long as they are, with its emoji. -/
def message (s : String) : String := Terminal.flowing (Terminal.Emoji.replace s.toList)

/-- The catalog of a name. -/
def registryOf : CatalogName → Registry
  | .standard => Catalog.standard
  | .legacy => Catalog.legacy

/-- The configuration that the first file gives. -/
def configuration (files : Files) (configFile : Option String) :
    Except ConfigError Configuration := do
  match (Configuration.loadFirst files).run (.fresh (configFile.getD Configuration.defaultFile)) with
  | (.ok _, c) => return c
  | (.error e, _) => throw e

/-- The catalog of a command: the one that it names, or else the one in the configuration. -/
def catalogOf (files : Files) (configFile : Option String) :
    Option CatalogName → Except ConfigError Registry
  | some name => .ok (registryOf name)
  | none => do return registryOf (← configuration files configFile).settings.catalog

def checkOutcome (R : Registry) : Outcome :=
  match R.ambiguities Catalog.family with
  | .error e => .crashed (.definition e)
  | .ok [] =>
    .printed 0 (line ("No ambiguities found in " ++ R.name ++ " catalog (" ++ toString R.size ++
      " methods)"))
  | .ok found => .printed 1 (String.join (found.map fun a => message a.message))

def Row.of (m : Method) : Row :=
  let shape (s : Option Shape) : String := (s.map Shape.describe).getD ""
  [m.name, m.direction.name, shape m.params, shape (m.replies.map (·.result)),
    shape (m.replies.map (·.error))]

def methodsOutcome (R : Registry) (direction : Option Direction) : Outcome :=
  .table (R.name ++ " " ++ R.version)
    ((R.methods.filter fun m => direction.all (· == m.direction)).map Row.of)

/-- The text of a file with every end of a line as a line feed. -/
def unifyLineEnds : List Char → List Char
  | '\r' :: '\n' :: rest => '\n' :: unifyLineEnds rest
  | '\r' :: rest => '\n' :: unifyLineEnds rest
  | c :: rest => c :: unifyLineEnds rest
  | [] => []

/-- What a payload turns out to be: parameters, a result or an error. -/
def payloadKind (R : Registry) (method : String) (asReply : Bool) (wire : Value) :
    Except Refusal String :=
  if asReply then
    (R.acceptResult Catalog.family method wire).outcome.map fun r =>
      if r.failed then "error" else "result"
  else (R.decodeParams Catalog.family method wire).outcome.map fun _ => "params"

def refusalOutcome : Refusal → Outcome
  | .fault (.mismatch m) => .printed 1 (message m.message)
  | .violation m => .printed 1 (message m.message)
  | .fault f => .crashed (.fault f)
  | r => .printed 2 (message r.message)

/-- What is said of a file that holds no JSON. Its name may hold tags of its own. -/
def invalidOutcome (file reason : String) : Outcome :=
  match Terminal.shown? ("[red]Invalid JSON in " ++ file ++ ": " ++ reason ++ "[/red]").toList with
  | some s => .printed 2 (Terminal.wrapped s)
  | none => .crashed .markup

def validateOutcome (R : Registry) (method file text : String) (asReply : Bool) : Outcome :=
  let chars := unifyLineEnds text.toList
  match Json.parseChars chars with
  | .error ⟨.tooLong digits, _⟩ => .crashed (.tooLong digits)
  | .error e => invalidOutcome file (e.message chars)
  | .ok wire =>
    match payloadKind R method asReply wire with
    | .ok kind => .printed 0 (line ("Valid " ++ method ++ " " ++ kind))
    | .error r => refusalOutcome r

/-- The options that are chosen, unless one of them is an integer that is too long to be written. -/
def configOutcome (chosen : Options) : Outcome :=
  match chosen.transport.bind (·.maxContentLength) with
  | some n =>
    if Numeral.isTooLong n.val then .crashed (.tooLong (toString n.val).length)
    else .printed 0 (line (chosen.printed.lines ""))
  | none => .printed 0 (line (chosen.printed.lines ""))

/-- The text of a file; a command is only run on one that is there. -/
def textOf (files : Files) (path : String) : String :=
  match files.visit path with
  | .file text => text
  | _ => ""

def Command.run (files : Files) (configFile : Option String) :
    Command → Except ConfigError Outcome
  | .check catalog => do return checkOutcome (← catalogOf files configFile catalog)
  | .methods catalog direction => do
    return methodsOutcome (← catalogOf files configFile catalog) direction
  | .validate method file catalog asReply => do
    let R ← catalogOf files configFile catalog
    return validateOutcome R method file (textOf files file) asReply
  | .config => do
    let c ← configuration files configFile
    return configOutcome c.chosen

/-- A command line that is understood so far. The configuration is needed before the rest of the
line is looked at, unless the log is to be kept in full anyway. -/
def Invocation.run (files : Files) (i : Invocation) : Outcome :=
  let ready := if i.debug then .ok () else (configuration files i.configFile).map fun _ => ()
  match ready with
  | .error e => .crashed (.config e)
  | .ok () =>
    match Command.parse files i.command i.arguments with
    | .error usage => usage.outcome
    | .ok command =>
      match command.run files i.configFile with
      | .ok outcome => outcome
      | .error e => .crashed (.config e)

/-- What a command line does, given the files of the working directory. -/
def run (files : Files) (args : List String) : Outcome :=
  match Invocation.parse files args with
  | .ok i => i.run files
  | .error usage => usage.outcome

end EditorProtocol.CommandLine
