import EditorProtocol.Config.Files
import EditorProtocol.Config.Printed
import EditorProtocol.Config.Reading
import EditorProtocol.Logging.Entry
import EditorProtocol.Value.Equality
import EditorProtocol.Value.Render

/-!
A configuration: options from a dictionary, or from configuration files of which a later one counts
before an earlier one. A file is read as options, merged with what was there, and read once more
with all of it before anything changes.
-/

namespace EditorProtocol

/-- Options by their names. The options of a section are in a dictionary of their own. -/
abbrev Dictionary := List (String × Value)

/-- A dictionary with the entries of a newer one, each in the place of the one of its name. Of a
section that is there already only the entries are taken over. What is there instead may be none;
its kind is told then. -/
def Dictionary.merge (old : Dictionary) : Dictionary → Except String Dictionary
  | [] => .ok old
  | (name, .object inner) :: rest =>
    match Value.lookup old name with
    | none => merge (Value.insertEntry old name (.object inner)) rest
    | some (.object known) => do
      let joined ← merge known inner
      merge (Value.insertEntry old name (.object joined)) rest
    | some other => if inner.isEmpty then merge old rest else .error other.kindName
  | (name, v) :: rest => merge (Value.insertEntry old name v) rest
termination_by new => sizeOf new

/-- Why a file is not loaded. -/
inductive ConfigError where
  | notToml
  /-- An integer in the file has too many digits. -/
  | tooLong (digits : Nat)
  | invalid (faults : List LocatedFault)
  /-- What stands in the place of a section is of another kind. -/
  | noSection (kind : String)
deriving DecidableEq, Repr

def ConfigError.noSectionText (kind : String) : String :=
  "'" ++ kind ++ "' object has no attribute 'keys'"

structure Configuration where
  /-- The options in force, defaults included unless they come from a dictionary. -/
  raw : Dictionary
  /-- The options that were set, as they were read last. -/
  chosen : Options
  /-- The files that were loaded, each once. -/
  loaded : List String
  /-- The file that is loaded first. -/
  localFile : String

/-- Something done to a configuration. What it changed stays changed if it fails. -/
abbrev ConfigAction := ExceptT ConfigError (StateM Configuration)

namespace Configuration

def defaultFile : String := "lsp-contract.toml"

/-- The defaults. -/
def fresh (localFile : String) : Configuration :=
  ⟨({} : Settings).options.entries, {}, [], localFile⟩

/-- The options of a dictionary, and no others. -/
def ofGiven (g : Given) : Except (List LocatedFault) Configuration := do
  let options ← Options.ofGiven g
  return ⟨options.entries, options, [], defaultFile⟩

def settings (c : Configuration) : Settings := c.chosen.settings

/-- The options that the text of a file gives. -/
def readFile (text : String) : Except ConfigError Options :=
  match Toml.parse text with
  | .error .malformed => .error .notToml
  | .error (.tooLong digits) => .error (.tooLong digits)
  | .ok table => (Options.ofGiven (.section (Given.ofNodes table))).mapError .invalid

/-- A dictionary with newer options merged into it, and the options that it is read as then. -/
def readMerged (old : Dictionary) (newer : Options) :
    Except ConfigError (Dictionary × Options) := do
  let merged ← (old.merge newer.entries).mapError .noSection
  let chosen ← (Options.ofGiven (.ofValue (.object merged))).mapError .invalid
  return (merged, chosen)

/-- The entry for a file that is not there. -/
def missingEntry (file : String) : LogEntry :=
  ⟨.info, "lsp_contract.config.contract_config",
    "Config file '" ++ Files.plain file ++ "' does not exist."⟩

/-- The files that were loaded, with one more. -/
def withLoaded (loaded : List String) (file : String) : List String :=
  if loaded.contains file then loaded else loaded ++ [file]

/-- Loads the options of a file, which count before those in force. A missing file is only noted. -/
def load (files : Files) (file : String) : ConfigAction (List LogEntry) := do
  match files.locate file with
  | .file text =>
    let newer ← readFile text
    let (merged, chosen) ← readMerged (← get).raw newer
    modify fun c => { c with chosen }
    modify fun c => { c with raw := merged }
    modify fun c => { c with loaded := withLoaded c.loaded (Files.plain file) }
    return []
  | _ => return [missingEntry file]

/-- The defaults again, with the same first file. -/
def reset (c : Configuration) : Configuration := fresh c.localFile

/-- Drops whatever was set and loads the first file. -/
def loadFirst (files : Files) : ConfigAction (List LogEntry) := do
  modify reset
  load files (← get).localFile

/-- How the configuration could be made again. -/
def render (c : Configuration) : String :=
  "ContractConfig.fromdict(" ++ (Value.object c.raw).abbreviated .brief ++ ")"

/-- The chosen options as JSON. -/
def json (c : Configuration) : String := c.chosen.printed.compact

end Configuration

end EditorProtocol
