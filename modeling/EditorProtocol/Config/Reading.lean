import EditorProtocol.Config.Settings
import EditorProtocol.Given.Scalar
import EditorProtocol.Toml.Document

/-!
Reading options from what a dictionary or a configuration file gives. All faults are reported, in
the order of the options, and unknown names after them.
-/

namespace EditorProtocol

namespace Given

mutual

/-- What a node of a configuration file gives. -/
def ofNode : Toml.Node → Given
  | .bool b => .bool b
  | .int n => .int n
  | .float x => .float x
  | .text s => .text (String.ofList s)
  | .table es => .section (ofNodes es)
  | .moment | .array _ => .strange

def ofNodes : List (String × Toml.Node) → List (String × Given)
  | [] => []
  | (name, node) :: rest => (name, ofNode node) :: ofNodes rest

end

end Given

/-- A rule that an option breaks, with the names that lead to the option. -/
structure LocatedFault where
  location : List String
  fault : Breach
deriving DecidableEq, Repr

/-! ## Single options -/

namespace Given

def readCatalog (g : Given) : Except Breach CatalogName :=
  match g.text?.bind CatalogName.ofName? with
  | some name => .ok name
  | none => .error (.notMember (CatalogName.all.map (·.name)))

def readSize (g : Given) : Except Breach Size := do
  let n ← g.readInteger
  if h : 0 < n.toNat then .ok ⟨n.toNat, h⟩ else .error (.belowOrEqual 0)

end Given

/-! ## Sections -/

/-- A result with the faults that were met on the way. -/
structure Reading (α : Type) where
  faults : List LocatedFault
  value : α

namespace Reading

instance : Monad Reading where
  pure a := ⟨[], a⟩
  bind r f :=
    let s := f r.value
    ⟨r.faults ++ s.faults, s.value⟩

/-- The result, if there is no fault. -/
def result {α : Type} (r : Reading α) : Except (List LocatedFault) α :=
  if r.faults.isEmpty then .ok r.value else .error r.faults

/-- The rule that something given for a section breaks, unless it is one. -/
def noSection : Breach := .notRecord "options"

def fault {α : Type} (name : String) (fault : Breach) : Reading (Option α) :=
  ⟨[⟨[name], fault⟩], none⟩

/-- An option of a name, if it is given. -/
def option {α : Type} (entries : List (String × Given)) (name : String)
    (read : Given → Except Breach α) : Reading (Option α) :=
  match (entries.lookup name).map read with
  | none => pure none
  | some (.ok a) => pure (some a)
  | some (.error e) => fault name e

/-- A section of a name, if it is given. -/
def inner {α : Type} (entries : List (String × Given)) (name : String)
    (read : List (String × Given) → Reading α) : Reading (Option α) :=
  match entries.lookup name with
  | none => pure none
  | some (.section es) =>
    let r := read es
    ⟨r.faults.map fun f => { f with location := name :: f.location }, some r.value⟩
  | some _ => fault name noSection

/-- The faults of names that are no options. -/
def noOthers (entries : List (String × Given)) (names : List String) : Reading Unit :=
  ⟨(entries.filter fun e => !names.contains e.1).map fun e => ⟨[e.1], .unknown⟩, ()⟩

end Reading

def TransportOptions.read (entries : List (String × Given)) : Reading TransportOptions := do
  let encoding ← Reading.option entries "encoding" Given.readText
  let contentType ← Reading.option entries "content_type" Given.readText
  let maxContentLength ← Reading.option entries "max_content_length" Given.readSize
  Reading.noOthers entries ["encoding", "content_type", "max_content_length"]
  return { encoding, contentType, maxContentLength }

def LoggingOptions.read (entries : List (String × Given)) : Reading LoggingOptions := do
  let debug ← Reading.option entries "debug" Given.readFlag
  Reading.noOthers entries ["debug"]
  return { debug }

def Options.read (entries : List (String × Given)) : Reading Options := do
  let catalog ← Reading.option entries "catalog" Given.readCatalog
  let transport ← Reading.inner entries "transport" TransportOptions.read
  let logging ← Reading.inner entries "logging" LoggingOptions.read
  Reading.noOthers entries ["catalog", "transport", "logging"]
  return { catalog, transport, logging }

/-- The options that something given for all of them makes. -/
def Options.ofGiven : Given → Except (List LocatedFault) Options
  | .section entries => (Options.read entries).result
  | _ => .error [⟨[], Reading.noSection⟩]

end EditorProtocol
