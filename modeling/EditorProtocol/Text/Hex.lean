import EditorProtocol.Number.Numeral
import EditorProtocol.Text.Quoted

/-!
Bytes written in hexadecimal digits, two for each byte.
-/

namespace EditorProtocol.Text

/-- The digits of bytes. -/
def hexOfBytes (bs : List UInt8) : String :=
  String.ofList (bs.flatMap fun b => hex 2 b.toNat)

/-- The bytes of pairs of digits; a digit left over is not looked at. -/
def bytesOfDigits : List Char → List UInt8
  | a :: b :: rest => (Numeral.value 16 [a, b]).toUInt8 :: bytesOfDigits rest
  | _ => []

def bytesOfHex (s : String) : List UInt8 := bytesOfDigits s.toList

end EditorProtocol.Text
