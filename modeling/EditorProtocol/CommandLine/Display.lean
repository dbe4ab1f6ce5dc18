import EditorProtocol.CommandLine.Run

/-!
Outcomes of commands as they are shown: texts as they are, methods in columns, and a short word on
the usage where a line was not understood.
-/

namespace EditorProtocol.CommandLine

def usageText : String :=
  "Usage: [-d] [--config FILE] COMMAND\n\n" ++
    "  check [-c CATALOG]\n" ++
    "  methods [-c CATALOG] [--direction DIRECTION]\n" ++
    "  validate [-c CATALOG] [--result] METHOD FILE\n" ++
    "  config\n\n" ++
    "  CATALOG is standard or legacy, DIRECTION is request or notification.\n"

/-- The headings of the columns of a row. -/
def headings : Row := ["Method", "Direction", "Params", "Result", "Error"]

/-- The width of the widest cell of each column. -/
def widths (rows : List Row) : List Nat :=
  rows.foldl (fun ws row =>
    (row.zipIdx).map fun (cell, i) => max cell.length (ws.getD i 0)) []

/-- A row with its cells filled up to the widths of their columns. -/
def rowText (ws : List Nat) (row : Row) : String :=
  let cells := (row.zip ws).map fun (cell, w) =>
    cell ++ String.ofList (List.replicate (w - cell.length) ' ')
  line (String.ofList
    ((("  ".intercalate cells).toList.reverse.dropWhile (· == ' ')).reverse))

def tableText (title : String) (rows : List Row) : String :=
  let ws := widths (headings :: rows)
  line title ++ String.join ((headings :: rows).map (rowText ws))

/-- What ended a command, in words. -/
def Crash.message : Crash → String
  | .config .notToml => "The configuration file is not valid TOML"
  | .config (.tooLong digits) => Numeral.excessText (some digits)
  | .config (.invalid faults) =>
    "The configuration is not valid: " ++ ", ".intercalate (faults.map fun f =>
      ".".intercalate f.location ++ " (" ++ f.fault.kindName ++ ")")
  | .config (.noSection kind) => ConfigError.noSectionText kind
  | .definition e => e.message
  | .fault f => f.message
  | .tooLong digits => Numeral.excessText (some digits)
  | .noFileName => "No file can be named like that"
  | .markup => "The name of the file closes a style that is not open"

/-- What an outcome shows. -/
def Outcome.display : Outcome → String
  | .usage _ => usageText
  | .printed _ text => text
  | .table title rows => tableText title rows
  | .crashed c => line c.message

end EditorProtocol.CommandLine
