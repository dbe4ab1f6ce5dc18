import EditorProtocol.Text.Visible

/-!
Quoted texts and bytes as they appear in messages. A text stands between single quotes unless it
holds a single quote and no double one; a backslash, the quote in use, line feed, carriage return
and tab are written with a backslash, other characters without visible form by their number.
-/

namespace EditorProtocol.Text

/-- The quote a text is written in. -/
def quoteFor (s : List Char) : Char :=
  if s.contains '\'' && !s.contains '"' then '"' else '\''

/-- A number in lower-case hexadecimal digits, filled up with zeros to a width. -/
def hex (width n : Nat) : List Char :=
  let ds := Nat.toDigits 16 n
  List.replicate (width - ds.length) '0' ++ ds

/-- One character of a quoted text. -/
def quoteChar (quote c : Char) : List Char :=
  if c = quote ∨ c = '\\' then ['\\', c]
  else if c = '\n' then ['\\', 'n']
  else if c = '\r' then ['\\', 'r']
  else if c = '\t' then ['\\', 't']
  else if isVisible c then [c]
  else if c.val.toNat < 256 then '\\' :: 'x' :: hex 2 c.val.toNat
  else if c.val.toNat < 65536 then '\\' :: 'u' :: hex 4 c.val.toNat
  else '\\' :: 'U' :: hex 8 c.val.toNat

def quotedChars (s : List Char) : List Char :=
  let q := quoteFor s
  q :: (s.flatMap (quoteChar q) ++ [q])

/-- A text in quotes. -/
def quoted (s : String) : String := String.ofList (quotedChars s.toList)

/-- One byte of quoted bytes: ASCII characters stand for themselves. -/
def quoteByte (quote : Char) (b : UInt8) : List Char :=
  let c := Char.ofNat b.toNat
  if c = quote ∨ c = '\\' then ['\\', c]
  else if c = '\n' then ['\\', 'n']
  else if c = '\r' then ['\\', 'r']
  else if c = '\t' then ['\\', 't']
  else if 32 ≤ b.toNat ∧ b.toNat < 127 then [c]
  else '\\' :: 'x' :: hex 2 b.toNat

/-- Bytes in quotes, marked by a leading b. -/
def quotedBytes (bs : List UInt8) : String :=
  let q := quoteFor (bs.map fun b => Char.ofNat b.toNat)
  String.ofList ('b' :: q :: (bs.flatMap (quoteByte q) ++ [q]))

end EditorProtocol.Text
