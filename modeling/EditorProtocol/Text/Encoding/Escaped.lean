import EditorProtocol.Number.Numeral
import EditorProtocol.Text.Encoding.Reader

/-!
Texts with escapes: a byte is the character of its number, and any other character is a backslash, a
letter and hexadecimal digits. Where backslashes are escaped as well, there are further escapes, and
a backslash in front of any other character stands for itself.
-/

namespace EditorProtocol.Escaped

/-- The character of a number; half of a character of two units is shown as a sign for a fault. -/
def charOf (n : Nat) : Char := if n.isValidChar then Char.ofNat n else '\ufffd'

/-- The first digits of a base among bytes, as far as they go, but no more than a number of them. -/
def digitsOf (base count : Nat) (bytes : List UInt8) : List Char :=
  ((bytes.take count).map fun b => Char.ofNat b.toNat).takeWhile (Numeral.isDigitOf base)

/-- The character of an escape by number, of which the bytes after its letter are given. -/
def readNumbered (form : String) (count : Nat) (tooLarge : ByteFault) (bytes : List UInt8) :
    Except (ByteFault × Nat) (List Char × Nat) :=
  let digits := digitsOf 16 count bytes
  if digits.length < count then .error (.cutEscape form, 2 + digits.length)
  else
    let n := Numeral.value 16 digits
    if 0x110000 ≤ n then .error (tooLarge, 2 + count) else .ok ([charOf n], 1 + count)

/-- An escape by name; no name is known. -/
def readNamed (bytes : List UInt8) : Except (ByteFault × Nat) (List Char × Nat) :=
  match bytes with
  | 0x7B :: rest =>
    let name := rest.takeWhile (· != 0x7D)
    if name.length = rest.length || name.isEmpty then .error (.badName, 3 + name.length)
    else .error (.unknownName, 4 + name.length)
  | _ => .error (.badName, 2)

/-- The characters that a letter after a backslash stands for. -/
def letters : List (Char × Char) :=
  [('\\', '\\'), ('\'', '\''), ('"', '"'), ('a', '\x07'), ('b', '\x08'), ('f', '\x0c'),
    ('n', '\n'), ('r', '\r'), ('t', '\t'), ('v', '\x0b')]

/-- What the bytes after a backslash make of it. -/
def readEscape (bytes : List UInt8) : Except (ByteFault × Nat) (List Char × Nat) :=
  match bytes with
  | [] => .error (.noEscape, 1)
  | b :: rest =>
    let c := Char.ofNat b.toNat
    if c = '\n' then .ok ([], 1)
    else if c = 'x' then readNumbered "xXX" 2 .illegalCharacter rest
    else if c = 'u' then readNumbered "uXXXX" 4 .illegalCharacter rest
    else if c = 'U' then readNumbered "UXXXXXXXX" 8 .illegalCharacter rest
    else if c = 'N' then readNamed rest
    else if Numeral.isDigitOf 8 c then
      let digits := digitsOf 8 3 bytes
      .ok ([charOf (Numeral.value 8 digits)], digits.length)
    else
      match letters.lookup c with
      | some d => .ok ([d], 1)
      | none => .ok (['\\', c], 1)

/-- What the bytes after a backslash make of it where backslashes are not escaped. -/
def readBare (bytes : List UInt8) : Except (ByteFault × Nat) (List Char × Nat) :=
  match bytes with
  | [] => .ok (['\\'], 0)
  | b :: rest =>
    let c := Char.ofNat b.toNat
    if c = 'u' then readNumbered "uXXXX" 4 .escapeOutOfRange rest
    else if c = 'U' then readNumbered "UXXXXXXXX" 8 .escapeOutOfRange rest
    else .ok (['\\', c], 1)

def read (backslashes : Bool) : CharReader := fun b rest =>
  if b != 0x5C then .ok ([Char.ofNat b.toNat], 0)
  else if backslashes then readEscape rest
  else readBare rest

/-- A character as it is written. -/
def write (backslashes : Bool) (c : Char) : List Char :=
  let n := c.val.toNat
  if 0x100 ≤ n then (Text.numbered c).toList
  else if !backslashes then [c]
  else if c = '\\' then ['\\', '\\']
  else if c = '\n' then ['\\', 'n']
  else if c = '\r' then ['\\', 'r']
  else if c = '\t' then ['\\', 't']
  else if n < 0x20 ∨ 0x7F ≤ n then (Text.numbered c).toList
  else [c]

end EditorProtocol.Escaped
