import EditorProtocol.Value.Render

/-!
Writing a JSON text without blanks, all characters beyond printable ASCII escaped. Integer and text
enumeration members are written as their codes, tuples as arrays, and the keys of a table as texts.
-/

namespace EditorProtocol.Json

/-- Why a value has no JSON text. -/
inductive WriteError where
  | notWritable (kind : String)
  | badKey (kind : String)
  | tooLong
deriving DecidableEq, Repr

def WriteError.message : WriteError → String
  | .notWritable kind => "Object of type " ++ kind ++ " is not JSON serializable"
  | .badKey kind => "keys must be str, int, float, bool or None, not " ++ kind
  | .tooLong => Numeral.excessText none

/-- An escape of a code unit. -/
def unitEscape (n : Nat) : List Char := '\\' :: 'u' :: Text.hex 4 n

/-- A character inside a string. -/
def writeChar (c : Char) : List Char :=
  let n := c.val.toNat
  if c = '"' ∨ c = '\\' then ['\\', c]
  else if c = '\n' then ['\\', 'n']
  else if c = '\r' then ['\\', 'r']
  else if c = '\t' then ['\\', 't']
  else if c = '\x08' then ['\\', 'b']
  else if c = '\x0c' then ['\\', 'f']
  else if 32 ≤ n ∧ n < 127 then [c]
  else if n < 0x10000 then unitEscape n
  else
    unitEscape (0xD800 + (n - 0x10000) / 0x400) ++ unitEscape (0xDC00 + (n - 0x10000) % 0x400)

def writeString (s : String) : String :=
  String.ofList ('"' :: (s.toList.flatMap writeChar ++ ['"']))

/-- A character inside a string of which only controls, quotes and backslashes are escaped. -/
def plainChar (c : Char) : List Char :=
  if 127 ≤ c.val.toNat then [c] else writeChar c

def plainString (s : String) : String :=
  String.ofList ('"' :: (s.toList.flatMap plainChar ++ ['"']))

/-- A float; the infinities and not-a-number by name. -/
def writeFloat (x : Double) : String :=
  if x.isNaN then "NaN"
  else if x.isFinite then x.render
  else if x.negative then "-Infinity"
  else "Infinity"

/-- An integer, unless it has too many digits. -/
def writeInteger (n : Int) : Except WriteError String :=
  if Numeral.isTooLong n then .error .tooLong else .ok (toString n)

/-- The text that a key is written as. -/
def keyText : Value → Except WriteError String
  | .text s => .ok s
  | .int n => writeInteger n
  | .float x => .ok (writeFloat x)
  | .bool true => .ok "true"
  | .bool false => .ok "false"
  | .null => .ok "null"
  | .member m =>
    match m.base, m.code with
    | .text, .text s => .ok s
    | .integer, .int n => .ok (toString n)
    | _, _ => .error (.badKey m.enumeration)
  | v => .error (.badKey v.kindName)

/-- The code of a member that is written as its code. -/
def memberText (m : EnumMember) : Except WriteError String :=
  match m.base, m.code with
  | .text, .text s => .ok (writeString s)
  | .integer, .int n => .ok (toString n)
  | _, _ => .error (.notWritable m.enumeration)

mutual

/-- The JSON text of a value. -/
def write : Value → Except WriteError String
  | .null => .ok "null"
  | .bool true => .ok "true"
  | .bool false => .ok "false"
  | .int n => writeInteger n
  | .float x => .ok (writeFloat x)
  | .text s => .ok (writeString s)
  | .list xs => do return "[" ++ ",".intercalate (← writeAll xs) ++ "]"
  | .tuple xs => do return "[" ++ ",".intercalate (← writeAll xs) ++ "]"
  | .object es => do return "\x7b" ++ ",".intercalate (← writeEntries es) ++ "\x7d"
  | .table es => do return "\x7b" ++ ",".intercalate (← writeRows es) ++ "\x7d"
  | .member m => memberText m
  | v => .error (.notWritable v.kindName)

def writeAll : List Value → Except WriteError (List String)
  | [] => .ok []
  | x :: xs => do return (← write x) :: (← writeAll xs)

def writeEntries : List (String × Value) → Except WriteError (List String)
  | [] => .ok []
  | (k, v) :: es => do return (writeString k ++ ":" ++ (← write v)) :: (← writeEntries es)

def writeRows : List (Value × Value) → Except WriteError (List String)
  | [] => .ok []
  | (k, v) :: es => do
    let key ← keyText k
    return (writeString key ++ ":" ++ (← write v)) :: (← writeRows es)

end

end EditorProtocol.Json
