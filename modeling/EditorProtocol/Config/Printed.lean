import EditorProtocol.Config.Settings
import EditorProtocol.Json.Written

/-!
Options as JSON, on one line or laid out with an entry a line.
-/

namespace EditorProtocol

/-- A dictionary as it is printed: the texts of its values, and dictionaries inside of it. -/
inductive Printed where
  | leaf (text : String)
  | inner (entries : List (String × Printed))

namespace Printed

def entry (name : String) (value : Option Printed) : List (String × Printed) :=
  (value.map fun v => (name, v)).toList

mutual

/-- Without blanks. -/
def compact : Printed → String
  | .leaf text => text
  | .inner entries => "\x7b" ++ ",".intercalate (compactAll entries) ++ "\x7d"

def compactAll : List (String × Printed) → List String
  | [] => []
  | (name, v) :: rest => (Json.plainString name ++ ":" ++ compact v) :: compactAll rest

end

mutual

/-- An entry a line, indented by two blanks for each dictionary it is in. -/
def lines (margin : String) : Printed → String
  | .leaf text => text
  | .inner [] => "\x7b\x7d"
  | .inner (e :: rest) =>
    "\x7b\n" ++ ",\n".intercalate (linesAll (margin ++ "  ") (e :: rest)) ++ "\n" ++ margin ++
      "\x7d"

def linesAll (margin : String) : List (String × Printed) → List String
  | [] => []
  | (name, v) :: rest =>
    (margin ++ Json.plainString name ++ ": " ++ lines margin v) :: linesAll margin rest

end

end Printed

def TransportOptions.printed (o : TransportOptions) : Printed :=
  .inner (Printed.entry "encoding" (o.encoding.map fun s => .leaf (Json.plainString s)) ++
    Printed.entry "content_type" (o.contentType.map fun s => .leaf (Json.plainString s)) ++
    Printed.entry "max_content_length"
      (o.maxContentLength.map fun n => .leaf (toString n.val)))

def LoggingOptions.printed (o : LoggingOptions) : Printed :=
  .inner (Printed.entry "debug"
    (o.debug.map fun b => .leaf (if b then "true" else "false")))

def Options.printed (o : Options) : Printed :=
  .inner (Printed.entry "catalog" (o.catalog.map fun c => .leaf (Json.plainString c.name)) ++
    Printed.entry "transport" (o.transport.map TransportOptions.printed) ++
    Printed.entry "logging" (o.logging.map LoggingOptions.printed))

end EditorProtocol
