import EditorProtocol.Toml.Item

/-!
A whole TOML text: one statement a line, each an entry of the current table or the name of the next
table. A table that an array or a table between braces gave is complete; one that was named, or that
keys with points opened in an earlier section, is not named again.
-/

namespace EditorProtocol.Toml

/-- A text as far as it was read: its root, the current table, and which paths may not be used
again. -/
structure Draft where
  root : Table := []
  current : Path := []
  /-- Paths of nodes that are complete with all their parts. -/
  closed : List Path := []
  /-- Paths of tables that were named, or opened by keys in an earlier section. -/
  named : List Path := []
  /-- Paths of tables that keys opened in this section. -/
  opened : List Path := []

namespace Draft

def isClosed (d : Draft) (path : Path) : Bool := d.closed.any path.isUnder

/-- The draft at the start of a section. -/
def nextSection (d : Draft) : Draft := { d with named := d.opened ++ d.named, opened := [] }

/-- A section for the table of a path. -/
def nameTable (d : Draft) (path : Path) : Option Draft :=
  if d.named.contains path || d.isClosed path then none
  else do
    let root ← d.root.alter true some path
    return { d with root, current := path, named := path :: d.named }

/-- A section for a further table of the array of a path. What was used in the one before is free
again. -/
def nameArray (d : Draft) (path : Path) : Option Draft :=
  if d.isClosed path then none
  else do
    let name ← path.getLast?
    let free (paths : List Path) := paths.filter fun p => !p.isUnder path
    let root ← d.root.alter true (Table.addToArray name) path.dropLast
    return { d with
      root, current := path, closed := free d.closed, named := path :: free d.named }

/-- The proper prefixes of a path, the empty one left out. -/
def prefixes (path : Path) : List Path :=
  (List.range (path.length - 1)).map fun n => path.take (n + 1)

/-- An entry of the current table. -/
def enter (d : Draft) (key : Path) (node : Node) : Option Draft :=
  let inner := (prefixes key).map (d.current ++ ·)
  let parent := d.current ++ key.dropLast
  if inner.any d.named.contains || d.isClosed parent then none
  else do
    let name ← key.getLast?
    let root ← d.root.alter true (Table.add name node) parent
    return { d with
      root
      closed := if node.isClosed then (d.current ++ key) :: d.closed else d.closed
      opened := inner ++ d.opened }

end Draft

/-- The name of a table between closing brackets. -/
def heading? (closing : List Char) (s : List Char) : Option (Path × List Char) := do
  let key ← key? (skipBlanks s)
  if closing.isPrefixOf key.rest then some (key.value, key.rest.drop closing.length) else none

def isKeyStart (c : Char) : Bool := isBareKey c || c == '"' || c == '\''

/-- The statement at the front of a text, and what follows it on the line. -/
def statement? (d : Draft) (s : List Char) : Except Failure (Draft × List Char) :=
  match s with
  | '[' :: '[' :: rest => do
    let (path, rest) ← ofReader (heading? [']', ']'] rest)
    let d ← ofReader (d.nextSection.nameArray path)
    return (d, skipBlanks rest)
  | '[' :: rest => do
    let (path, rest) ← ofReader (heading? [']'] rest)
    let d ← ofReader (d.nextSection.nameTable path)
    return (d, skipBlanks rest)
  | '#' :: _ => .ok (d, s)
  | c :: _ =>
    if isKeyStart c then do
      let p ← keyValue? s
      let d ← ofReader (d.enter p.value.1 p.value.2)
      return (d, skipBlanks p.rest)
    else .error .malformed
  | [] => .ok (d, [])

/-- What follows a comment, if there is one. -/
def afterComment? (s : List Char) : Option (List Char) :=
  match s with
  | '#' :: rest =>
    if (rest.takeWhile (· != '\n')).all (isAllowed false) then some (rest.dropWhile (· != '\n'))
    else none
  | s => some s

/-- The draft after all lines of a text. -/
def lines? (d : Draft) (s : List Char) : Except Failure Draft :=
  match skipBlanks s with
  | [] => .ok d
  | '\n' :: rest => if rest.length < s.length then lines? d rest else .error .malformed
  | start => do
    let (d, rest) ← statement? d start
    match ← ofReader (afterComment? rest) with
    | [] => return d
    | '\n' :: rest => if rest.length < s.length then lines? d rest else .error .malformed
    | _ => .error .malformed
termination_by s.length

/-- A text in which carriage returns before line feeds do not count. -/
def unifyLines : List Char → List Char
  | '\r' :: '\n' :: rest => '\n' :: unifyLines rest
  | c :: rest => c :: unifyLines rest
  | [] => []

/-- The table that a whole text describes, if it keeps the rules. -/
def parse (text : String) : Except Failure Table :=
  (lines? {} (unifyLines text.toList)).map Draft.root

end EditorProtocol.Toml
