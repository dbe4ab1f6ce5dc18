import EditorProtocol.Value.Basic

/-!
The settings of the contract: which catalog is in use, how messages are framed, and whether the log
is kept in full. An option that was not given has its default.
-/

namespace EditorProtocol

inductive CatalogName where
  | standard
  | legacy
deriving DecidableEq, Repr, Inhabited

namespace CatalogName

def name : CatalogName → String
  | standard => "standard"
  | legacy => "legacy"

def all : List CatalogName := [.standard, .legacy]

def ofName? (s : String) : Option CatalogName := all.find? fun c => c.name = s

theorem ofName?_name (c : CatalogName) : ofName? c.name = some c := by cases c <;> rfl

end CatalogName

/-- A size in bytes; there is no limit of zero. -/
abbrev Size := { n : Nat // 0 < n }

/-- Sixteen mebibytes. -/
def defaultLimit : Size := ⟨16777216, Nat.zero_lt_succ _⟩

structure TransportSettings where
  /-- The encoding of contents, which the header of a message announces. -/
  encoding : String := "utf-8"
  contentType : String := "application/vscode-jsonrpc"
  /-- The largest content that is accepted. -/
  maxContentLength : Size := defaultLimit
deriving DecidableEq, Repr

structure LoggingSettings where
  debug : Bool := false
deriving DecidableEq, Repr

structure Settings where
  catalog : CatalogName := .standard
  transport : TransportSettings := {}
  logging : LoggingSettings := {}
deriving DecidableEq, Repr

/-- Transport options as far as they are given. -/
structure TransportOptions where
  encoding : Option String := none
  contentType : Option String := none
  maxContentLength : Option Size := none
deriving DecidableEq, Repr

structure LoggingOptions where
  debug : Option Bool := none
deriving DecidableEq, Repr

/-- Options as far as they are given; a section may be given without any. -/
structure Options where
  catalog : Option CatalogName := none
  transport : Option TransportOptions := none
  logging : Option LoggingOptions := none
deriving DecidableEq, Repr

def TransportOptions.settings (o : TransportOptions) : TransportSettings :=
  let d : TransportSettings := {}
  { encoding := o.encoding.getD d.encoding
    contentType := o.contentType.getD d.contentType
    maxContentLength := o.maxContentLength.getD d.maxContentLength }

def LoggingOptions.settings (o : LoggingOptions) : LoggingSettings :=
  let d : LoggingSettings := {}
  { debug := o.debug.getD d.debug }

/-- The settings that options make, with defaults for what is not given. -/
def Options.settings (o : Options) : Settings where
  catalog := o.catalog.getD .standard
  transport := (o.transport.getD {}).settings
  logging := (o.logging.getD {}).settings

def TransportSettings.options (s : TransportSettings) : TransportOptions :=
  ⟨some s.encoding, some s.contentType, some s.maxContentLength⟩

/-- All options of settings, given. -/
def Settings.options (s : Settings) : Options :=
  ⟨some s.catalog, some s.transport.options, some ⟨some s.logging.debug⟩⟩

theorem Settings.settings_options (s : Settings) : s.options.settings = s := rfl

/-- The entry of an option that is given. -/
def optionEntry (name : String) (value : Option Value) : List (String × Value) :=
  (value.map fun v => (name, v)).toList

def TransportOptions.entries (o : TransportOptions) : List (String × Value) :=
  optionEntry "encoding" (o.encoding.map .text) ++
    optionEntry "content_type" (o.contentType.map .text) ++
    optionEntry "max_content_length" (o.maxContentLength.map fun n => .int n.val)

def LoggingOptions.entries (o : LoggingOptions) : List (String × Value) :=
  optionEntry "debug" (o.debug.map .bool)

def TransportOptions.toValue (o : TransportOptions) : Value := .object o.entries

def LoggingOptions.toValue (o : LoggingOptions) : Value := .object o.entries

/-- The options that are given, as the entries of a dictionary. -/
def Options.entries (o : Options) : List (String × Value) :=
  optionEntry "catalog" (o.catalog.map fun c => .text c.name) ++
    optionEntry "transport" (o.transport.map TransportOptions.toValue) ++
    optionEntry "logging" (o.logging.map LoggingOptions.toValue)

end EditorProtocol
