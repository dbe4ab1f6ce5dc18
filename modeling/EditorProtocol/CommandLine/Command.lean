import EditorProtocol.CommandLine.Arguments
import EditorProtocol.Config.Configuration
import EditorProtocol.Method.Basic
import EditorProtocol.Text.Letters

/-!
The commands: what each does, and how it is written. A command line that cannot be understood, and
one that asks for help, end with a text on its usage.
-/

namespace EditorProtocol.CommandLine

/-- A command that is understood. -/
inductive Command where
  /-- Look for payloads that may be taken for one another. -/
  | check (catalog : Option CatalogName)
  /-- List the methods, all or those of a direction. -/
  | methods (catalog : Option CatalogName) (direction : Option Direction)
  /-- Hold a file against the payload of a method: its parameters, or its reply. -/
  | validate (method file : String) (catalog : Option CatalogName) (asReply : Bool)
  /-- Show the options that are chosen. -/
  | config
deriving DecidableEq, Repr

/-- Why a command line is not carried out: it ends with a text on its usage, or because it names a
file as no file can be named. -/
inductive Usage where
  | help
  | mistake
  | noFileName
deriving DecidableEq, Repr

def Usage.exitCode : Usage → Nat
  | .help => 0
  | .mistake => 2
  | .noFileName => 1

/-! ## Before the command -/

inductive GeneralOption where
  | debug
  | config
  | version
  | help
deriving DecidableEq, Repr

def generalForms : List (OptionForm GeneralOption) := [
  ⟨.debug, ["-d", "--debug"], false⟩, ⟨.config, ["--config"], true⟩,
  ⟨.version, ["--version"], false⟩, ⟨.help, ["-h", "--help"], false⟩]

inductive CommandName where
  | check
  | methods
  | validate
  | config
deriving DecidableEq, Repr

def CommandName.ofName? : String → Option CommandName
  | "check" => some .check
  | "methods" => some .methods
  | "validate" => some .validate
  | "config" => some .config
  | _ => none

/-- A command line up to the name of the command. -/
structure Invocation where
  debug : Bool
  configFile : Option String
  command : CommandName
  arguments : List String
deriving DecidableEq, Repr

/-- What a path leads to. No path holds the character that ends texts elsewhere. -/
def visited (files : Files) (path : String) : Except Usage Files.Located :=
  if path.toList.contains (Char.ofNat 0) then .error .noFileName else .ok (files.visit path)

/-- A configuration file need not exist, but it is no directory. -/
def checkConfigFile (files : Files) : Option String → Except Usage Unit
  | none => .ok ()
  | some path => do if (← visited files path) = .directory then throw .mistake

def Invocation.parse (files : Files) (line : List String) : Except Usage Invocation :=
  match Arguments.parse? generalForms false line with
  | none => .error .mistake
  | some args =>
    if args.has .help || args.has .version then .error .help
    else do
      checkConfigFile files (args.value? .config)
      match args.positional with
      | [] => .error .mistake
      | name :: rest =>
        match CommandName.ofName? name with
        | some command => .ok ⟨args.has .debug, args.value? .config, command, rest⟩
        | none => .error .mistake

/-! ## The command -/

inductive CommandOption where
  | catalog
  | direction
  | reply
  | help
deriving DecidableEq, Repr

def helpForm : OptionForm CommandOption := ⟨.help, ["-h", "--help"], false⟩

def catalogForm : OptionForm CommandOption := ⟨.catalog, ["--catalog", "-c"], true⟩

def CommandName.forms : CommandName → List (OptionForm CommandOption)
  | .check => [catalogForm, helpForm]
  | .methods => [catalogForm, ⟨.direction, ["--direction"], true⟩, helpForm]
  | .validate => [catalogForm, ⟨.reply, ["--result"], false⟩, helpForm]
  | .config => [helpForm]

/-- One of several choices by its name; case does not count. -/
def choice? {α : Type} (choices : List (String × α)) (written : String) : Option α :=
  choices.lookup (String.ofList (written.toList.flatMap Text.folded))

/-- The choice of an option, if it is given. -/
def optionalChoice {α : Type} (choices : List (String × α)) :
    Option String → Except Usage (Option α)
  | none => .ok none
  | some written =>
    match choice? choices written with
    | some a => .ok (some a)
    | none => .error .mistake

def catalogChoices : List (String × CatalogName) := CatalogName.all.map fun c => (c.name, c)

def directionChoices : List (String × Direction) :=
  [Direction.request, Direction.notification].map fun d => (d.name, d)

/-- A file that is to be looked at has to be there. -/
def checkFile (files : Files) (path : String) : Except Usage Unit := do
  match ← visited files path with
  | .file _ => return ()
  | _ => throw .mistake

def Command.parse (files : Files) (name : CommandName) (line : List String) :
    Except Usage Command :=
  match Arguments.parse? name.forms true line with
  | none => .error .mistake
  | some args =>
    if args.has .help then .error .help
    else do
      let catalog ← optionalChoice catalogChoices (args.value? .catalog)
      let direction ← optionalChoice directionChoices (args.value? .direction)
      match name, args.positional with
      | .check, [] => return .check catalog
      | .methods, [] => return .methods catalog direction
      | .validate, [method, file] =>
        checkFile files file
        return .validate method file catalog (args.has .reply)
      | .config, [] => return .config
      | _, _ => .error .mistake

end EditorProtocol.CommandLine
