import EditorProtocol.Text.Encoding.Page
import EditorProtocol.Text.Quoted

/-!
Character encodings: their kinds, and why bytes are no text or a text has no bytes in one. A fault
in bytes is located by the number of bytes before it.
-/

namespace EditorProtocol

/-- Which byte of a code unit comes first. -/
inductive ByteOrder where
  | little
  | big
deriving DecidableEq, Repr

/-- An encoding of an Eastern script. Of its characters only those of ASCII are known, some of which
have other bytes than their number. -/
structure EasternScript where
  scheme : String
  others : List (Char × List UInt8)
deriving DecidableEq, Repr

/-- A character encoding. Without a byte order, the first bytes of a text may be a mark that tells
it, and it is little otherwise. -/
inductive Encoding where
  | ascii
  | latin
  | page (p : CodePage)
  | eastern (s : EasternScript)
  | utf7
  | utf8
  | markedUtf8
  | utf16 (order : Option ByteOrder)
  | utf32 (order : Option ByteOrder)
  /-- Latin, with escapes for all other characters; backslashes may be escaped as well. -/
  | escaped (backslashes : Bool)
  | punycode
  /-- Labels of names, separated by points. -/
  | labels
  /-- The encoding that no text has. -/
  | undefined
deriving DecidableEq, Repr

/-- What is wrong with bytes that no character has. -/
inductive ByteFault where
  | beyondAscii
  | undefined
  | badStart
  | badContinuation
  | earlyEnd
  | truncated
  | loneLow
  | loneHigh
  | surrogate
  | beyondRange
  | illegalSequence
  | incompleteSequence
  | noEscape
  | cutEscape (form : String)
  | illegalCharacter
  | escapeOutOfRange
  | badName
  | unknownName
  | special
  | badShift
  | openShift
  | partialShift
  | strayBits
deriving DecidableEq, Repr

def ByteFault.message : ByteFault → String
  | .beyondAscii => "ordinal not in range(128)"
  | .undefined => "character maps to <undefined>"
  | .badStart => "invalid start byte"
  | .badContinuation => "invalid continuation byte"
  | .earlyEnd => "unexpected end of data"
  | .truncated => "truncated data"
  | .loneLow => "illegal encoding"
  | .loneHigh => "illegal UTF-16 surrogate"
  | .surrogate => "code point in surrogate code point range(0xd800, 0xe000)"
  | .beyondRange => "code point not in range(0x110000)"
  | .illegalSequence => "illegal multibyte sequence"
  | .incompleteSequence => "incomplete multibyte sequence"
  | .noEscape => "\\ at end of string"
  | .cutEscape form => "truncated \\" ++ form ++ " escape"
  | .illegalCharacter => "illegal Unicode character"
  | .escapeOutOfRange => "\\Uxxxxxxxx out of range"
  | .badName => "malformed \\N character escape"
  | .unknownName => "unknown Unicode character name"
  | .special => "unexpected special character"
  | .badShift => "ill-formed sequence"
  | .openShift => "unterminated shift sequence"
  | .partialShift => "partial character in shift sequence"
  | .strayBits => "non-zero padding bits in shift sequence"

/-- Why a text cannot be read from bytes or written as bytes. -/
inductive EncodingError where
  | unknown (name : String)
  /-- No encoding has a name with a null character in it. -/
  | nullInName
  /-- What has the name does not encode texts. -/
  | notText (name : String) (reading : Bool)
  | undecodable (scheme : String) (start : Nat) (bytes : List UInt8) (fault : ByteFault)
  | unencodable (scheme : String) (start : Nat) (chars : List Char) (limit : String)
  /-- The encoding fails as a whole. -/
  | failed (name : String) (reading : Bool) (reason : String)
deriving DecidableEq, Repr

/-- A character by its number, in the shortest of three widths. -/
def Text.numbered (c : Char) : String :=
  let n := c.val.toNat
  String.ofList <|
    if n < 256 then '\\' :: 'x' :: Text.hex 2 n
    else if n < 65536 then '\\' :: 'u' :: Text.hex 4 n
    else '\\' :: 'U' :: Text.hex 8 n

/-- The places of a run that starts at one. -/
def placesText (start count : Nat) : String :=
  toString start ++ "-" ++ toString (start + count - 1)

def EncodingError.message : EncodingError → String
  | .unknown name => "unknown encoding: " ++ name
  | .nullInName => "embedded null character"
  | .notText name reading =>
    "'" ++ name ++ "' is not a text encoding; use codecs." ++
      (if reading then "decode" else "encode") ++ "() to handle arbitrary codecs"
  | .undecodable scheme start [b] fault =>
    "'" ++ scheme ++ "' codec can't decode byte 0x" ++ String.ofList (Text.hex 2 b.toNat) ++
      " in position " ++ toString start ++ ": " ++ fault.message
  | .undecodable scheme start bytes fault =>
    "'" ++ scheme ++ "' codec can't decode bytes in position " ++
      placesText start bytes.length ++ ": " ++ fault.message
  | .unencodable scheme start [c] limit =>
    "'" ++ scheme ++ "' codec can't encode character '" ++ Text.numbered c ++
      "' in position " ++ toString start ++ ": " ++ limit
  | .unencodable scheme start chars limit =>
    "'" ++ scheme ++ "' codec can't encode characters in position " ++
      placesText start chars.length ++ ": " ++ limit
  | .failed name reading reason =>
    (if reading then "decoding" else "encoding") ++ " with '" ++ name ++
      "' codec failed (UnicodeError: " ++ reason ++ ")"

end EditorProtocol
