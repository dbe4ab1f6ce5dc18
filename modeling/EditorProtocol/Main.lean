import EditorProtocol.CommandLine.Display

/-!
The command line: the files that a line may speak of are read, the line is run on them, and what
comes of it is shown.
-/

namespace EditorProtocol.CommandLine

/-- The file of a path, if it can be read. -/
def readIfThere (path : String) : IO Files := do
  try
    let text ← IO.FS.readFile path
    return [(path, text)]
  catch _ => return []

/-- The paths that a line may speak of. -/
def pathsOf (args : List String) : List String :=
  Configuration.defaultFile :: args.flatMap fun arg =>
    arg :: (splitLong arg.toList).2.toList

/-- Runs a line on the files that are there. -/
def execute (args : List String) : IO UInt32 := do
  let files := (← (pathsOf args).mapM readIfThere).flatten
  let outcome := run files args
  match outcome with
  | .usage .mistake | .crashed _ => IO.eprint outcome.display
  | _ => IO.print outcome.display
  return UInt32.ofNat outcome.exitCode

end EditorProtocol.CommandLine

def main (args : List String) : IO UInt32 := EditorProtocol.CommandLine.execute args
