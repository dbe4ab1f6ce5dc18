/-!
Text files in a working directory, known by the names on the way to them.
-/

namespace EditorProtocol

/-- The contents of files by their paths. -/
abbrev Files := List (String × String)

namespace Files

/-- The names on the way to what a path leads to, if that is inside of the working directory. -/
def steps? (path : String) : Option (List String) :=
  if path.startsWith "/" then none
  else
    ((path.splitOn "/").filter fun n => n != "" && n != ".").foldlM
      (fun way n => if n = ".." then (if way.isEmpty then none else some way.dropLast)
        else some (way ++ [n])) []

/-- A path without detours. -/
def plain (path : String) : String :=
  match steps? path with
  | some way => "/".intercalate way
  | none => path

/-- What a path leads to. -/
inductive Located where
  | file (text : String)
  | directory
  | absent
deriving DecidableEq, Repr

/-- Whether names lead to a directory: the working directory is one, and so is whatever has a file
below it. -/
def isDirectory (files : Files) (way : List String) : Bool :=
  way.isEmpty || files.any fun f =>
    (steps? f.1).any fun w => way.isPrefixOf w && decide (way.length < w.length)

/-- What names lead to. -/
def reached (files : Files) (way : List String) : Located :=
  match files.find? fun f => steps? f.1 = some way with
  | some f => .file f.2
  | none => if files.isDirectory way then .directory else .absent

/-- What a path leads to, its detours left out without a look at what they lead through. -/
def locate (files : Files) (path : String) : Located :=
  ((steps? path).map files.reached).getD .absent

/-- The names on the way to what a path leads to, where every part of the path but the last one has
to lead to a directory. -/
def walk? (files : Files) : List String → List String → Option (List String)
  | way, [] => some way
  | way, n :: rest =>
    if !files.isDirectory way then none
    else if n = "" ∨ n = "." then files.walk? way rest
    else if n = ".." then (if way.isEmpty then none else files.walk? way.dropLast rest)
    else files.walk? (way ++ [n]) rest

/-- What a path leads to, step by step. -/
def visit (files : Files) (path : String) : Located :=
  if path = "" ∨ path.startsWith "/" then .absent
  else ((files.walk? [] (path.splitOn "/")).map files.reached).getD .absent

end Files

end EditorProtocol
