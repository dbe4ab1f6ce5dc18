import EditorProtocol.Number.Double

/-!
The tree that a TOML text describes. A table is reached by a path of names; where an array of tables
is on the way, the path goes on in its last table.
-/

namespace EditorProtocol.Toml

inductive Node where
  | text (s : List Char)
  | int (n : Int)
  | float (x : Double)
  | bool (b : Bool)
  /-- A date, a time of day, or both. -/
  | moment
  | array (items : List Node)
  | table (entries : List (String × Node))
deriving Repr

/-- Named nodes in the order of their first mention. -/
abbrev Table := List (String × Node)

/-- A path of names from the root. -/
abbrev Path := List String

/-- A table with the entry of a name replaced, or added at the end. -/
def Table.insert (name : String) (node : Node) : Table → Table
  | [] => [(name, node)]
  | e :: rest => if e.1 = name then (name, node) :: rest else e :: insert name node rest

def Table.find? (name : String) (t : Table) : Option Node := t.lookup name

/-- A change of the table behind a path. Tables missing on the way are added; any other node on the
way has no table behind it, unless it is an array that may be entered and ends in a table. -/
def Table.alter (enterArrays : Bool) (change : Table → Option Table) :
    Path → Table → Option Table
  | [], t => change t
  | name :: path, t =>
    match Table.find? name t with
    | none => do
      let inner ← alter enterArrays change path []
      return Table.insert name (.table inner) t
    | some (.table inner) => do
      let inner ← alter enterArrays change path inner
      return Table.insert name (.table inner) t
    | some (.array items) =>
      match enterArrays, items.getLast? with
      | true, some (.table inner) => do
        let inner ← alter enterArrays change path inner
        return Table.insert name (.array (items.dropLast ++ [.table inner])) t
      | _, _ => none
    | some _ => none

/-- A new entry; a name is given once. -/
def Table.add (name : String) (node : Node) (t : Table) : Option Table :=
  if (Table.find? name t).isSome then none else some (Table.insert name node t)

/-- A further table in the array of a name. -/
def Table.addToArray (name : String) (t : Table) : Option Table :=
  match Table.find? name t with
  | none => some (Table.insert name (.array [.table []]) t)
  | some (.array items) => some (Table.insert name (.array (items ++ [.table []])) t)
  | some _ => none

/-- Whether a node has parts, which only its own text may give. -/
def Node.isClosed : Node → Bool
  | .array _ | .table _ => true
  | _ => false

/-- Whether one path leads through another one. -/
def Path.isUnder (path above : Path) : Bool := above.isPrefixOf path

end EditorProtocol.Toml
