/-!
Columns of a line in UTF-16 code units. A character outside of the basic plane takes two units, so
an index into the characters of a line and a column differ, and a column may fall inside of a
character.
-/

namespace EditorProtocol

/-- Why an index or a column names no place between the characters of a line. -/
inductive ColumnError where
  | noIndex (index : Int) (length : Nat)
  | negative (column : Int)
  | split (column : Int)
  | beyond (column : Int) (units : Nat)
deriving DecidableEq, Repr

def ColumnError.message : ColumnError → String
  | .noIndex index length =>
    "Index " ++ toString index ++ " out of bounds for line of length " ++ toString length
  | .negative column => "Negative character offset " ++ toString column
  | .split column =>
    "Character offset " ++ toString column ++ " splits a surrogate pair in line"
  | .beyond column units =>
    "Character offset " ++ toString column ++ " out of bounds for line of " ++ toString units ++
      " UTF-16 code units"

namespace Column

/-- The code units of a character. -/
def unitsOf (c : Char) : Nat := if 0xFFFF < c.val.toNat then 2 else 1

/-- The code units of a line. -/
def length : List Char → Nat
  | [] => 0
  | c :: rest => unitsOf c + length rest

/-- The column before the character of an index, or at the end of the line. -/
def ofIndex (line : List Char) (index : Int) : Except ColumnError Nat :=
  if index < 0 ∨ (line.length : Int) < index then .error (.noIndex index line.length)
  else .ok (length (line.take index.toNat))

/-- The index of the character at a column, given the index and the column of the first one. -/
def indexFrom (index units column : Nat) : List Char → Except ColumnError Nat
  | [] => if units = column then .ok index else .error (.beyond column units)
  | c :: rest =>
    if units = column then .ok index
    else if column < units + unitsOf c then .error (.split column)
    else indexFrom (index + 1) (units + unitsOf c) column rest

/-- The index of the character at a column; the end of the line is the index after the last. -/
def toIndex (line : List Char) (column : Int) : Except ColumnError Nat :=
  if column < 0 then .error (.negative column) else indexFrom 0 0 column.toNat line

end Column

end EditorProtocol
