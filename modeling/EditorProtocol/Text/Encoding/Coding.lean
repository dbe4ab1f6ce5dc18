import EditorProtocol.Text.Encoding.Escaped
import EditorProtocol.Text.Encoding.Puny
import EditorProtocol.Text.Encoding.Shifted

/-!
Reading and writing whole texts in any encoding. A text of which some character has no bytes is
refused at the first run of such characters.
-/

namespace EditorProtocol

/-! ## Reading -/

/-- The text that bytes are in an encoding. -/
def Encoding.decode (encoding : Encoding) (bytes : List UInt8) :
    Except EncodingError (List Char) :=
  match encoding with
  | .ascii | .labels => readAscii.readAll "ascii" 0 bytes
  | .latin => readLatin.readAll "latin-1" 0 bytes
  | .page p => (readPage p).readAll "charmap" 0 bytes
  | .eastern s => (readEastern s).readAll s.scheme 0 bytes
  | .utf7 => Shifted.read.readAll "utf7" 0 bytes
  | .utf8 => readUtf8.readAll "utf-8" 0 bytes
  | .markedUtf8 =>
    readUtf8.readAll "utf-8" 0 (if utf8Mark.isPrefixOf bytes then bytes.drop 3 else bytes)
  | .utf16 order? =>
    let (order, n) := order?.elim (markedOrder utf16Mark bytes) (·, 0)
    (readUtf16 order).readAll (order.schemeName "utf-16") n (bytes.drop n)
  | .utf32 order? =>
    let (order, n) := order?.elim (markedOrder utf32Mark bytes) (·, 0)
    (readUtf32 order).readAll (order.schemeName "utf-32") n (bytes.drop n)
  | .escaped true => (Escaped.read true).readAll "unicodeescape" 0 bytes
  | .escaped false => (Escaped.read false).readAll "rawunicodeescape" 0 bytes
  | .punycode => Puny.decode bytes
  | .undefined => .error (.failed "" true "undefined encoding")

/-! ## Writing -/

/-- The two bytes of a number below 65536. -/
def ByteOrder.bytes16 (order : ByteOrder) (n : Nat) : List UInt8 :=
  let low := UInt8.ofNat (n % 256)
  let high := UInt8.ofNat (n / 256)
  match order with
  | .little => [low, high]
  | .big => [high, low]

/-- The four bytes of a number. -/
def ByteOrder.bytes32 (order : ByteOrder) (n : Nat) : List UInt8 :=
  let low := order.bytes16 (n % 65536)
  let high := order.bytes16 (n / 65536)
  match order with
  | .little => low ++ high
  | .big => high ++ low

/-- Characters that are bytes, as bytes. -/
def bytesOfChars (cs : List Char) : List UInt8 := cs.map fun c => UInt8.ofNat c.toNat

/-- The bytes of a character on its own; none if the encoding lacks it. -/
def Encoding.bytesOf? (encoding : Encoding) (c : Char) : Option (List UInt8) :=
  let n := c.val.toNat
  match encoding with
  | .latin => if n < 0x100 then some [UInt8.ofNat n] else none
  | .page p => (p.byteOf? c).map fun b => [b]
  | .eastern s => (s.others.lookup c).or (if n < 0x80 then some [UInt8.ofNat n] else none)
  | .utf8 | .markedUtf8 => some (String.utf8EncodeChar c)
  | .utf16 order? =>
    let order := order?.getD .little
    if n < 0x10000 then some (order.bytes16 n)
    else
      some (order.bytes16 (0xD800 + (n - 0x10000) / 0x400) ++
        order.bytes16 (0xDC00 + (n - 0x10000) % 0x400))
  | .utf32 order? => some ((order?.getD .little).bytes32 n)
  | .escaped backslashes => some (bytesOfChars (Escaped.write backslashes c))
  | _ => if n < 0x80 then some [UInt8.ofNat n] else none

/-- The bytes in front of every text of an encoding. -/
def Encoding.mark : Encoding → List UInt8
  | .markedUtf8 => utf8Mark
  | .utf16 none => utf16Mark
  | .utf32 none => utf32Mark
  | _ => []

/-- The name under which a character without bytes is told, and which characters have some. -/
def Encoding.limit : Encoding → String × String
  | .latin => ("latin-1", "ordinal not in range(256)")
  | .page _ => ("charmap", ByteFault.message .undefined)
  | .eastern s => (s.scheme, ByteFault.message .illegalSequence)
  | _ => ("ascii", ByteFault.message .beyondAscii)

/-- The bytes of a text, character by character. -/
def Encoding.encodeEach (encoding : Encoding) (text : List Char) :
    Except EncodingError (List UInt8) :=
  let lacks (c : Char) : Bool := (encoding.bytesOf? c).isNone
  match text.findIdx? lacks with
  | some i =>
    let (scheme, limit) := encoding.limit
    let run := (text.drop i).takeWhile lacks
    .error (.unencodable scheme i (if encoding matches .eastern _ then run.take 1 else run) limit)
  | none => .ok (encoding.mark ++ text.flatMap fun c => (encoding.bytesOf? c).getD [])

/-- The labels of a name. -/
def labelsOf (text : List Char) : List (List Char) :=
  match text with
  | [] => [[]]
  | '.' :: rest => [] :: labelsOf rest
  | c :: rest =>
    match labelsOf rest with
    | label :: labels => (c :: label) :: labels
    | [] => [[c]]

/-- Refuses a name with a label that is empty or too long; only the last label may be empty. -/
def checkLabels : List (List Char) → Except EncodingError Unit
  | [] => .ok ()
  | [last] => if last.length < 64 then .ok () else .error (.failed "" false "label too long")
  | label :: rest =>
    if 0 < label.length ∧ label.length < 64 then checkLabels rest
    else .error (.failed "" false "label empty or too long")

/-- The bytes of a text in an encoding. -/
def Encoding.encode (encoding : Encoding) (text : List Char) :
    Except EncodingError (List UInt8) :=
  match encoding with
  | .utf7 => .ok (bytesOfChars (Shifted.write text))
  | .punycode => .ok (bytesOfChars (Puny.encode text))
  | .labels => do
    if !text.isEmpty then checkLabels (labelsOf text)
    encoding.encodeEach text
  | .undefined => .error (.failed "" false "undefined encoding")
  | e => e.encodeEach text

end EditorProtocol
